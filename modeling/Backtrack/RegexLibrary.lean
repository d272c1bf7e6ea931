/-!
# The regular expression library

Regular expression patterns are matched by a library outside this one. The matcher asks it to
build an expression from its source under some flags, and asks a built expression for the
number of its groups and for the groups of its leftmost-first match in a haystack, each as a
span of byte offsets into the UTF-8 text of the haystack (`CompiledRegex`).

The library documents two promises of these answers, and a built expression carries them:
group zero, the overall match, takes part in every match, and every offset it reports falls on
a character boundary of the haystack. Nothing more is assumed. In particular a match may start
anywhere in the haystack: `\A` anchors it at the start only as far as the syntax of the
expression around it lets it (`CompiledRegex.Anchored`).

The matcher counts characters where the library counts bytes. It turns a byte offset into the
characters that the bytes before it hold (`bytePrefix`, the string slice `[..b]`), and at a
character boundary these are exactly the characters whose bytes end there
(`bytePrefix_byteLength_take`).
-/

namespace Backtrack

/-! ### Bytes of characters -/

/-- The number of bytes the characters of `l` take in UTF-8. -/
def byteLength : List Char → Nat
  | [] => 0
  | c :: cs => c.utf8Size + byteLength cs

@[simp] theorem byteLength_nil : byteLength [] = 0 := rfl

@[simp] theorem byteLength_cons (c : Char) (cs : List Char) :
    byteLength (c :: cs) = c.utf8Size + byteLength cs := rfl

@[simp] theorem byteLength_append (l m : List Char) : byteLength (l ++ m) = byteLength l + byteLength m := by
  induction l with
  | nil => simp
  | cons c cs ih => simp [ih, Nat.add_assoc]

theorem utf8ByteSize_ofList (l : List Char) : (String.ofList l).utf8ByteSize = byteLength l := by
  induction l with
  | nil => rfl
  | cons c cs ih =>
    have hsplit : String.ofList (c :: cs) = String.singleton c ++ String.ofList cs := by
      rw [String.singleton_eq_ofList, ← String.ofList_append]
      rfl
    rw [hsplit, String.utf8ByteSize_append, String.utf8ByteSize_singleton, ih, byteLength_cons]

/-- The byte offsets of a text that fall between two of its characters, or at either end, are
the numbers of bytes its first characters take. -/
theorem isValid_ofList_iff {l : List Char} {b : Nat} :
    (String.Pos.Raw.mk b).IsValid (String.ofList l) ↔ ∃ k, byteLength (l.take k) = b := by
  rw [String.Pos.Raw.isValid_ofList]
  simp only [utf8ByteSize_ofList]
  exact exists_congr fun _ ↦ eq_comm

/-- The characters of `l` that its first `b` bytes hold: the string slice `[..b]` when `b` falls
on a character boundary. A character that the offset cuts is left out, with all after it. -/
def bytePrefix : List Char → Nat → List Char
  | [], _ => []
  | c :: cs, b => if c.utf8Size ≤ b then c :: bytePrefix cs (b - c.utf8Size) else []

/-- The characters of `l` that its bytes from `s` to `e` hold: the string slice `[s..e]`. -/
def byteSlice (l : List Char) (s e : Nat) : List Char :=
  bytePrefix (l.drop (bytePrefix l s).length) (e - s)

@[simp] theorem bytePrefix_zero (l : List Char) : bytePrefix l 0 = [] := by
  cases l with
  | nil => rfl
  | cons c cs => simp [bytePrefix, Nat.not_le.mpr c.utf8Size_pos]

@[simp] theorem byteSlice_zero (l : List Char) (e : Nat) : byteSlice l 0 e = bytePrefix l e := by
  simp [byteSlice]

theorem bytePrefix_isPrefix (l : List Char) (b : Nat) : bytePrefix l b <+: l := by
  induction l generalizing b with
  | nil => exact List.nil_prefix
  | cons c cs ih =>
    unfold bytePrefix
    split
    · exact List.prefix_cons_inj c |>.mpr (ih _)
    · exact List.nil_prefix

theorem length_bytePrefix_le (l : List Char) (b : Nat) : (bytePrefix l b).length ≤ l.length :=
  (bytePrefix_isPrefix l b).length_le

/-- At a character boundary, the slice `[..b]` holds the characters whose bytes end there. -/
theorem bytePrefix_byteLength_take (l : List Char) (k : Nat) :
    bytePrefix l (byteLength (l.take k)) = l.take k := by
  induction l generalizing k with
  | nil => simp [bytePrefix]
  | cons c cs ih =>
    cases k with
    | zero => simp [bytePrefix, Nat.not_le.mpr c.utf8Size_pos]
    | succ k =>
      simp only [List.take_succ_cons, byteLength_cons, bytePrefix, Nat.le_add_right, if_true,
        Nat.add_sub_cancel_left, ih]

/-- The slice `[..b]` at the boundary after the first `k` characters holds `k` of them. -/
theorem length_bytePrefix_byteLength_take (l : List Char) {k : Nat} (hk : k ≤ l.length) :
    (bytePrefix l (byteLength (l.take k))).length = k := by
  rw [bytePrefix_byteLength_take, List.length_take, Nat.min_eq_left hk]

/-- The bytes of the first characters grow with their number. -/
theorem byteLength_take_le_of_le (l : List Char) {i j : Nat} (hij : i ≤ j) :
    byteLength (l.take i) ≤ byteLength (l.take j) := by
  rw [← Nat.add_sub_cancel' hij, List.take_add, byteLength_append]
  exact Nat.le_add_right _ _

/-- Every character boundary of a text is where the bytes of some of its first characters end. -/
theorem exists_take_of_isValid {l : List Char} {b : Nat} (h : (String.Pos.Raw.mk b).IsValid (String.ofList l)) :
    ∃ k ≤ l.length, byteLength (l.take k) = b := by
  obtain ⟨k, hk⟩ := isValid_ofList_iff.mp h
  rcases Nat.le_total k l.length with hle | hle
  · exact ⟨k, hle, hk⟩
  · exact ⟨l.length, Nat.le_refl _, by rw [← hk, List.take_of_length_le hle, List.take_length]⟩

/-- Between two character boundaries, the slice `[s..e]` holds the characters whose bytes lie
between them; none if the end comes first. -/
theorem byteSlice_byteLength_take (l : List Char) (i j : Nat) :
    byteSlice l (byteLength (l.take i)) (byteLength (l.take j)) = (l.drop i).take (j - i) := by
  rcases Nat.le_total i j with hij | hji
  · have hsplit : l.take j = l.take i ++ (l.drop i).take (j - i) := by
      rw [← List.take_add, Nat.add_sub_cancel' hij]
    have hdrop : l.drop (l.take i).length = l.drop i := by
      rw [List.length_take]
      rcases Nat.le_total i l.length with h | h
      · rw [Nat.min_eq_left h]
      · rw [Nat.min_eq_right h, List.drop_eq_nil_of_le h, List.drop_length]
    rw [byteSlice, bytePrefix_byteLength_take, hdrop, hsplit, byteLength_append, Nat.add_sub_cancel_left,
      bytePrefix_byteLength_take]
  · -- the end comes first: no bytes lie between
    rw [byteSlice, Nat.sub_eq_zero_of_le (byteLength_take_le_of_le l hji), Nat.sub_eq_zero_of_le hji,
      bytePrefix_zero, List.take_zero]

theorem size_utf8Encode (l : List Char) : l.utf8Encode.size = byteLength l := by
  rw [← String.toByteArray_ofList, String.size_toByteArray, utf8ByteSize_ofList]

/-- The bytes of the characters between two character boundaries are the bytes of the text
between them. -/
theorem utf8Encode_drop_take (l : List Char) (i j : Nat) :
    ((l.drop i).take (j - i)).utf8Encode =
      (String.ofList l).toByteArray.extract (byteLength (l.take i)) (byteLength (l.take j)) := by
  rcases Nat.le_total i j with hij | hji
  · have hsplit : l.take j = l.take i ++ (l.drop i).take (j - i) := by
      rw [← List.take_add, Nat.add_sub_cancel' hij]
    -- the text is the characters before the slice, the slice, and the characters after it
    have hl : l = l.take i ++ ((l.drop i).take (j - i) ++ l.drop j) := by
      rw [← List.append_assoc, ← hsplit, List.take_append_drop]
    generalize l.take i = A at hl hsplit
    generalize (l.drop i).take (j - i) = B at hl hsplit
    have hmid := ByteArray.extract_append_size_add (a := A.utf8Encode)
      (b := B.utf8Encode ++ (l.drop j).utf8Encode) (i := 0) (j := B.utf8Encode.size)
    rw [Nat.add_zero, ByteArray.extract_append_eq_left rfl, ← List.utf8Encode_append,
      ← List.utf8Encode_append, ← hl] at hmid
    rw [hsplit, byteLength_append, String.toByteArray_ofList, ← size_utf8Encode, ← size_utf8Encode, hmid]
  · -- the end comes first: no bytes lie between
    rw [Nat.sub_eq_zero_of_le hji, List.take_zero, List.utf8Encode_nil, eq_comm,
      ByteArray.extract_eq_empty_iff]
    exact Nat.le_trans (Nat.min_le_left _ _) (byteLength_take_le_of_le l hji)

/-! ### What the library answers -/

/-- A regular expression built by the library, as the matcher asks it: the number of its groups,
and the groups of its leftmost-first match in a haystack, if it has one. With them come the two
promises of the library's documentation that the matcher relies on. -/
structure CompiledRegex where
  /-- The number of groups, group zero included (`captures_len`). -/
  groupCount : Nat
  /-- The groups of the leftmost-first match in the haystack (`captures`): for each group the
  byte offsets where it starts and ends, or nothing if it did not take part in the match. -/
  captures : String → Option (Nat → Option (Nat × Nat))
  /-- Group zero is the overall match, so it takes part in every match. -/
  whole : ∀ {h caps}, captures h = some caps → (caps 0).isSome
  /-- A group starts and ends on character boundaries of the haystack. -/
  boundaries : ∀ {h caps g s e}, captures h = some caps → caps g = some (s, e) →
    (String.Pos.Raw.mk s).IsValid h ∧ (String.Pos.Raw.mk e).IsValid h

/-- An expression whose every match starts at the start of the haystack, as `\A(?:e)` does when
`e` is an expression on its own. -/
def CompiledRegex.Anchored (r : CompiledRegex) : Prop :=
  ∀ {h caps s e}, r.captures h = some caps → caps 0 = some (s, e) → s = 0

/-- The flags in force from the start of an expression. -/
structure RegexFlags where
  caseInsensitive : Bool := false
  multiLine : Bool := false
  dotAll : Bool := false

/-- The library: it builds an expression from its source under flags, or says why it cannot, in
the words of its error. -/
structure RegexLibrary where
  build : String → RegexFlags → Except String CompiledRegex

end Backtrack
