import Backtrack.Text.Quoted

/-!
# Fragments

What a match produces: nothing, a piece of text, a list of fragments, or a fragment labelled
with the name of the grammar that produced it. The text of a fragment joins its pieces of
text in order; flattening lists its pieces of text and labelled fragments in order, without
the nesting and without the empty fragments.

Main statement: `text_flatten` (flattening keeps the text).
-/

namespace Backtrack

/-- The result of a match. -/
inductive Fragment where
  | empty
  | text (s : String)
  | list (items : List Fragment)
  | named (name : String) (inner : Fragment)
  deriving Repr, Inhabited

namespace Fragment

/-- Structural equality; two pieces of text are equal when their characters are. -/
def beq : Fragment → Fragment → Bool
  | empty, empty => true
  | text s, text t => s == t
  | list xs, list ys => listBeq xs ys
  | named n a, named m b => n == m && beq a b
  | _, _ => false
where
  listBeq : List Fragment → List Fragment → Bool
    | [], [] => true
    | x :: xs, y :: ys => beq x y && listBeq xs ys
    | _, _ => false

instance : BEq Fragment := ⟨beq⟩

mutual
/-- The text of a fragment: its pieces of text joined in order. -/
def toText : Fragment → String
  | empty => ""
  | text s => s
  | list items => listText items
  | named _ inner => toText inner

/-- The joined text of a list of fragments. -/
def listText : List Fragment → String
  | [] => ""
  | f :: fs => toText f ++ listText fs
end

mutual
/-- The pieces of text and labelled fragments, in order, without nesting or empty fragments. -/
def flatten : Fragment → List Fragment
  | empty => []
  | list items => flattenList items
  | f => [f]

/-- `flatten` over every fragment of a list, concatenated. -/
def flattenList : List Fragment → List Fragment
  | [] => []
  | f :: fs => flatten f ++ flattenList fs
end

/-- How many items the fragment holds: nothing holds none, a list its items, anything else
one. -/
def size : Fragment → Nat
  | empty => 0
  | list items => items.length
  | _ => 1

/-- Whether the fragment is the empty one. -/
def isNothing : Fragment → Bool
  | empty => true
  | _ => false

/-- The label of a labelled fragment. -/
def name? : Fragment → Option String
  | named n _ => some n
  | _ => none

/-- The fragment inside a label, or the fragment itself. -/
def unlabel : Fragment → Fragment
  | named _ inner => inner
  | f => f

/-- The text of a piece of text. -/
def text? : Fragment → Option String
  | text s => some s
  | _ => none

/-- The items of a list. -/
def items? : Fragment → Option (List Fragment)
  | list items => some items
  | _ => none

/-- Item `i` of a list. -/
def get? (f : Fragment) (i : Nat) : Option Fragment := f.items?.bind (·[i]?)

/-- The fragment as one piece of text: a piece of text stays, anything else becomes its text. -/
def grouped : Fragment → Fragment
  | text s => text s
  | f => text f.toText

mutual
/-- The debug form: `Empty`, quoted text, `[a, b]`, or `Name("text")`. -/
def debug : Fragment → String
  | empty => "Empty"
  | text s => Text.quote s
  | list items => "[" ++ debugList items ++ "]"
  | named n inner => n ++ "(" ++ Text.quote inner.toText ++ ")"

/-- The debug forms of the items, separated by commas. -/
def debugList : List Fragment → String
  | [] => ""
  | [f] => debug f
  | f :: fs => debug f ++ ", " ++ debugList fs
end

theorem listText_append (xs ys : List Fragment) :
    listText (xs ++ ys) = listText xs ++ listText ys := by
  induction xs with
  | nil => simp [listText]
  | cons f fs ih => simp [listText, ih, String.append_assoc]

mutual
theorem text_flatten (f : Fragment) : listText f.flatten = f.toText := by
  match f with
  | empty => rfl
  | text s => simp [flatten, listText, toText]
  | list items => simp [flatten, toText, text_flattenList items]
  | named n inner => simp [flatten, listText, toText]

theorem text_flattenList (items : List Fragment) : listText (flattenList items) = listText items := by
  match items with
  | [] => rfl
  | f :: fs => simp [flattenList, listText, listText_append, text_flatten f, text_flattenList fs]
end

end Fragment
end Backtrack
