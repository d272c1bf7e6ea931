import Backtrack.Proofs.Offers
import Backtrack.Pattern.Regex
import Backtrack.Regex.Library

/-!
# What a regular expression pattern reports

A regular expression pattern asks the library for the groups of its leftmost-first match in the
text after the cursor, each as a span of byte offsets into that text, and counts characters where
the library counts bytes. The cursor moves over the characters that the bytes before the end of
the advance group hold, or before the end of group zero if the advance group did not take part;
a group that took part is reported as the input between the symbol offsets where its bytes start
and end.

Nothing is assumed of the library beyond the two promises a built expression carries
(`CompiledRegex`): group zero takes part in every match, so the cursor always has a place to
move to, and every offset falls on a character boundary. At a boundary the characters before an
offset are exactly those whose bytes end there (`bytePrefix_byteLength_take`), so the symbol
offsets are exact, and the text of a group has the very bytes the library reports for its span
(`Cursor.SpanText`).

Main statement: `regex_reports_groups`.
-/

namespace Backtrack

namespace Cursor

/-- The text between two offsets counted from the cursor, both within the text after it. -/
theorem textBetween_rest (c : Cursor) (hv : c.pos ≤ c.size) {s e : Nat} (he : e ≤ c.rest.length) :
    c.textBetween (c.pos + s) (c.pos + e) = String.ofList ((c.rest.drop s).take (e - s)) := by
  rw [length_rest] at he
  have hstop : min (c.pos + e) c.size = c.pos + e := Nat.min_eq_left (by omega)
  unfold textBetween
  simp only [hstop, Array.toList_extract, List.extract_eq_take_drop, rest_eq_drop, List.drop_drop]
  -- a span that starts past its end is empty on both sides
  rcases Nat.le_total s e with hse | hes
  · rw [Nat.min_eq_left (by omega : c.pos + s ≤ c.pos + e)]
    congr 2
    omega
  · rw [Nat.min_eq_right (by omega : c.pos + e ≤ c.pos + s), Nat.sub_self,
      Nat.sub_eq_zero_of_le hes, List.take_zero, List.take_zero]

/-- `t` is the text that the library reports for the bytes from `bs` to `be` of the text after
the cursor: the input between the symbol offsets where those bytes start and end, made of the
very bytes between `bs` and `be`. -/
def SpanText (c : Cursor) (bs be : Nat) (t : String) : Prop :=
  ∃ i j, i ≤ c.rest.length ∧ j ≤ c.rest.length ∧ byteLength (c.rest.take i) = bs ∧
    byteLength (c.rest.take j) = be ∧ t = c.textBetween (c.pos + i) (c.pos + j) ∧
    t.toByteArray = (String.ofList c.rest).toByteArray.extract bs be

/-- `t` is what is listed for group `g` of a match with groups `caps`: the library's text for
its span, or empty text if it did not take part. -/
def GroupText (c : Cursor) (caps : Nat → Option (Nat × Nat)) (g : Nat) (t : String) : Prop :=
  (caps g = none ∧ t = "") ∨ ∃ bs be, caps g = some (bs, be) ∧ c.SpanText bs be t

/-- A match with groups `caps` in the text after the cursor ends `k` characters on: at the end
of group `adv` if it took part, else at the end of group zero. -/
def StopsAfter (c : Cursor) (caps : Nat → Option (Nat × Nat)) (adv k : Nat) : Prop :=
  ∃ s0 e, (caps adv = some (s0, e) ∨ caps adv = none ∧ caps 0 = some (s0, e)) ∧
    k ≤ c.rest.length ∧ byteLength (c.rest.take k) = e

/-- Between two character boundaries of the text after the cursor, the text that the symbols of
the bytes before them delimit is the text the library reports. -/
theorem spanText_groupFragment (c : Cursor) (hv : c.pos ≤ c.size) {bs be : Nat}
    (hs : (String.Pos.Raw.mk bs).IsValid (String.ofList c.rest))
    (he : (String.Pos.Raw.mk be).IsValid (String.ofList c.rest)) :
    c.SpanText bs be (c.textBetween (c.pos + (bytePrefix c.rest bs).length)
      (c.pos + (bytePrefix c.rest bs).length + (byteSlice c.rest bs be).length)) := by
  obtain ⟨i, hi, rfl⟩ := exists_take_of_isValid hs
  obtain ⟨j, hj, rfl⟩ := exists_take_of_isValid he
  -- the group starts `i` characters on and its slice holds the `j - i` characters after them
  have hslice : (byteSlice c.rest (byteLength (c.rest.take i)) (byteLength (c.rest.take j))).length = j - i := by
    rw [byteSlice_byteLength_take, List.length_take, List.length_drop]
    omega
  have htext : c.textBetween (c.pos + i) (c.pos + i + (j - i)) = c.textBetween (c.pos + i) (c.pos + j) := by
    rw [Nat.add_assoc, c.textBetween_rest hv (by omega), c.textBetween_rest hv hj, Nat.add_sub_cancel_left]
  rw [length_bytePrefix_byteLength_take _ hi, hslice, htext]
  refine ⟨i, j, hi, hj, rfl, rfl, rfl, ?_⟩
  rw [c.textBetween_rest hv hj, String.toByteArray_ofList, utf8Encode_drop_take]

end Cursor

/-- The fragment that reports the requested groups of a match with groups `caps` in the text
after the cursor: one group as the library's text for it, or nothing if it did not take part;
several as a list of texts in order. -/
def Groups.Reports (caps : Nat → Option (Nat × Nat)) (c : Cursor) : Groups → Fragment → Prop
  | .one g, f => (caps g = none ∧ f = .empty) ∨
      ∃ bs be t, caps g = some (bs, be) ∧ f = .text t ∧ c.SpanText bs be t
  | .many gs, f => ∃ ts, f = .list (ts.map .text) ∧ List.Forall₂ (c.GroupText caps) gs ts

namespace Engine

section Reports

variable {c : Cursor} {r : CompiledRegex} {caps : Nat → Option (Nat × Nat)}

/-- The fragment of a group is the library's text for its span, or nothing. -/
theorem groupFragment_reported (hv : c.pos ≤ c.size) (hcap : r.captures (String.ofList c.rest) = some caps)
    (g : Nat) : (caps g = none ∧ groupFragment c caps g = .empty) ∨
      ∃ bs be t, caps g = some (bs, be) ∧ groupFragment c caps g = .text t ∧ c.SpanText bs be t := by
  unfold groupFragment
  cases hg : caps g with
  | none => exact .inl ⟨rfl, rfl⟩
  | some se =>
    obtain ⟨bs, be⟩ := se
    obtain ⟨hs, he⟩ := r.boundaries hcap hg
    exact .inr ⟨bs, be, _, rfl, rfl, c.spanText_groupFragment hv hs he⟩

/-- A listed group is the library's text for its span, or empty text. -/
theorem groupListed_reported (hv : c.pos ≤ c.size) (hcap : r.captures (String.ofList c.rest) = some caps)
    (g : Nat) : ∃ t, groupListed c caps g = .text t ∧ c.GroupText caps g t := by
  unfold groupListed
  rcases groupFragment_reported hv hcap g with ⟨hnone, hfrag⟩ | ⟨bs, be, t, hsome, hfrag, hspan⟩
  · exact ⟨"", by rw [hfrag], .inl ⟨hnone, rfl⟩⟩
  · exact ⟨t, by rw [hfrag], .inr ⟨bs, be, hsome, hspan⟩⟩

/-- A list of groups is the list of their texts, each the library's text or empty. -/
theorem groupsListed_reported (hv : c.pos ≤ c.size) (hcap : r.captures (String.ofList c.rest) = some caps)
    (gs : List Nat) : ∃ ts, gs.map (groupListed c caps) = ts.map .text ∧ List.Forall₂ (c.GroupText caps) gs ts := by
  induction gs with
  | nil => exact ⟨[], rfl, .nil⟩
  | cons g gs ih =>
    obtain ⟨ts, hts, hall⟩ := ih
    obtain ⟨t, hg, ht⟩ := groupListed_reported hv hcap g
    exact ⟨t :: ts, by rw [List.map_cons, List.map_cons, hg, hts], .cons ht hall⟩

/-- Where the matcher stops: the characters before the end of a group that took part. -/
theorem stopsAfter_bytePrefix (hcap : r.captures (String.ofList c.rest) = some caps) {adv s0 e : Nat}
    (hspan : caps adv = some (s0, e) ∨ caps adv = none ∧ caps 0 = some (s0, e)) :
    c.StopsAfter caps adv (bytePrefix c.rest e).length := by
  have hvalid : (String.Pos.Raw.mk e).IsValid (String.ofList c.rest) := by
    rcases hspan with h | ⟨-, h⟩
    · exact (r.boundaries hcap h).2
    · exact (r.boundaries hcap h).2
  obtain ⟨k, hk, rfl⟩ := exists_take_of_isValid hvalid
  rw [length_bytePrefix_byteLength_take _ hk]
  exact ⟨s0, _, hspan, hk, rfl⟩

end Reports

variable {cx : Context} {rx : RegexNode} {b : Bool} {s s' : MatchState} {m : Matched}

/-- A regular expression that matched asked the library about the text after the cursor; the
cursor moved on to where the match stops for the matcher, and the fragment reports the
requested groups. -/
theorem consume_regex_reports (hv : s.cursor.Valid) (h : consume cx (.mk (.regex rx) b) s = .ok m s') :
    ∃ caps k, rx.compiled.captures (String.ofList s.cursor.rest) = some caps ∧
      s.cursor.StopsAfter caps rx.options.advance k ∧
      s' = { s with cursor := { s.cursor with pos := s.cursor.pos + k } } ∧
      rx.options.groups.Reports caps s.cursor m.fragment := by
  have hstep := step_of_consume h
  rw [step] at hstep
  simp only [matchRegex, cursor_bind] at hstep
  cases hcap : rx.compiled.captures (String.ofList s.cursor.rest) with
  | none => rw [hcap] at hstep; cases hstep
  | some caps =>
    rw [hcap] at hstep
    simp only [setCursor_bind, pure_apply, EStateM.Result.ok.injEq] at hstep
    obtain ⟨rfl, rfl⟩ := hstep
    -- the matcher stops at the end of the advance group, or of group zero, which takes part
    obtain ⟨s0, e, hspan, hstop⟩ : ∃ s0 e, (caps rx.options.advance = some (s0, e) ∨
        caps rx.options.advance = none ∧ caps 0 = some (s0, e)) ∧
        (((caps rx.options.advance).orElse fun _ ↦ caps 0).map (·.2)).getD 0 = e := by
      cases ha : caps rx.options.advance with
      | some se => exact ⟨se.1, se.2, .inl rfl, rfl⟩
      | none =>
        obtain ⟨⟨s0, e⟩, h0⟩ := Option.isSome_iff_exists.mp (rx.compiled.whole hcap)
        exact ⟨s0, e, .inr ⟨rfl, h0⟩, by simp [h0]⟩
    refine ⟨caps, _, rfl, stopsAfter_bytePrefix hcap hspan,
      by rw [hstop, Cursor.advance_eq hv.2 (s.cursor.pos_add_bytePrefix_le hv.1 e)], ?_⟩
    cases hgroups : rx.options.groups with
    | one g => exact groupFragment_reported hv.1 hcap g
    | many gs =>
      obtain ⟨ts, hts, hall⟩ := groupsListed_reported hv.1 hcap gs
      exact ⟨ts, by simp only [Matched.fixed, hts], hall⟩

end Engine

/-- A regular expression pattern built from a source and options holds the expression that the
library built from the source anchored with `\A`, under the options' flags. -/
theorem regexWith_built {lib : RegexLibrary} {source : String} {o : RegexOptions} {p : Pattern}
    (hp : Pattern.regexWith lib source o = .ok p) :
    ∃ compiled, lib.build (Pattern.anchoredSource source) o.flags = .ok compiled ∧
      p = Pattern.new (.regex ⟨source, o, compiled⟩) := by
  unfold Pattern.regexWith at hp
  cases hc : lib.build (Pattern.anchoredSource source) o.flags with
  | error f => simp [hc, Except.mapError, bind, Except.bind] at hp
  | ok compiled =>
    simp only [hc, Except.mapError, bind, Except.bind] at hp
    split at hp
    · cases hp
    · cases hp
      exact ⟨compiled, rfl, rfl⟩

/-- A regular expression pattern, as built from a source and options, matches through the
library's expression for the anchored source. When it matches at a cursor, the library found a
match in the text after the cursor; the cursor moved over the characters that the bytes before
the end of the advance group hold, or before the end of group zero if the advance group did not
take part; and the fragment holds, for each requested group, the input between the symbol
offsets of its byte span, with the very bytes the library reports for it. -/
theorem regex_reports_groups {lib : RegexLibrary} {source : String} {o : RegexOptions} {p : Pattern}
    (hp : Pattern.regexWith lib source o = .ok p) {cx : Context} {s s' : MatchState} {m : Matched}
    (hv : s.cursor.Valid) (h : Engine.consume cx p s = .ok m s') :
    ∃ compiled caps k, lib.build (Pattern.anchoredSource source) o.flags = .ok compiled ∧
      compiled.captures (String.ofList s.cursor.rest) = some caps ∧
      s.cursor.StopsAfter caps o.advance k ∧
      s' = { s with cursor := { s.cursor with pos := s.cursor.pos + k } } ∧
      o.groups.Reports caps s.cursor m.fragment := by
  obtain ⟨compiled, hbuild, rfl⟩ := regexWith_built hp
  obtain ⟨caps, k, hcap, hstop, hs', hreports⟩ := Engine.consume_regex_reports hv h
  exact ⟨compiled, caps, k, hbuild, hcap, hstop, hs', hreports⟩

/-- A library that builds the machine's expression `a`, whatever the source. -/
def letterLibrary : RegexLibrary :=
  ⟨fun _ _ ↦ .ok ((Regex.Program.ofExpr (.chars (Regex.CharSet.single 'a') false) 1).toCompiled
    (Regex.Program.ofExpr_wrapsZero _ Nat.one_pos))⟩

/-- The expression `a` matches the first symbol of `ab`: the cursor moves over it and the
fragment is its text. -/
theorem regex_reports_groups_letter :
    Pattern.regexWith letterLibrary "a" {} = .ok (Pattern.new (.regex ⟨"a", {},
      (Regex.Program.ofExpr (.chars (Regex.CharSet.single 'a') false) 1).toCompiled
        (Regex.Program.ofExpr_wrapsZero _ Nat.one_pos)⟩)) ∧
    (⟨Cursor.ofString "ab", #[]⟩ : MatchState).cursor.Valid ∧
    Engine.consume (contextAt (RuleSet.mk 0 []) {} checkAllowance 0) (Pattern.new (.regex ⟨"a", {},
      (Regex.Program.ofExpr (.chars (Regex.CharSet.single 'a') false) 1).toCompiled
        (Regex.Program.ofExpr_wrapsZero _ Nat.one_pos)⟩)) ⟨Cursor.ofString "ab", #[]⟩ =
      .ok (.fixed (.text "a")) ⟨⟨#['a', 'b'], 1, []⟩, #[]⟩ ∧
    ∃ compiled caps k, letterLibrary.build (Pattern.anchoredSource "a") ({} : RegexOptions).flags = .ok compiled ∧
      compiled.captures (String.ofList (⟨Cursor.ofString "ab", #[]⟩ : MatchState).cursor.rest) = some caps ∧
      (⟨Cursor.ofString "ab", #[]⟩ : MatchState).cursor.StopsAfter caps ({} : RegexOptions).advance k ∧
      (⟨⟨#['a', 'b'], 1, []⟩, #[]⟩ : MatchState) = { (⟨Cursor.ofString "ab", #[]⟩ : MatchState) with
        cursor := { (⟨Cursor.ofString "ab", #[]⟩ : MatchState).cursor with
          pos := (⟨Cursor.ofString "ab", #[]⟩ : MatchState).cursor.pos + k } } ∧
      ({} : RegexOptions).groups.Reports caps (⟨Cursor.ofString "ab", #[]⟩ : MatchState).cursor
        (Matched.fixed (.text "a")).fragment := by
  have hp : Pattern.regexWith letterLibrary "a" {} = .ok (Pattern.new (.regex ⟨"a", {},
      (Regex.Program.ofExpr (.chars (Regex.CharSet.single 'a') false) 1).toCompiled
        (Regex.Program.ofExpr_wrapsZero _ Nat.one_pos)⟩)) := rfl
  have hv : (⟨Cursor.ofString "ab", #[]⟩ : MatchState).cursor.Valid := by
    unfold Cursor.Valid
    decide
  have hsearch : (Regex.Program.ofExpr (.chars (Regex.CharSet.single 'a') false) 1).search #['a', 'b'] =
      some #[some 0, some 1] := by
    with_unfolding_all decide
  have hstep : Engine.step (contextAt (RuleSet.mk 0 []) {} checkAllowance 0) (Pattern.new (.regex ⟨"a", {},
      (Regex.Program.ofExpr (.chars (Regex.CharSet.single 'a') false) 1).toCompiled
        (Regex.Program.ofExpr_wrapsZero _ Nat.one_pos)⟩)) ⟨Cursor.ofString "ab", #[]⟩ =
      .ok (.fixed (.text "a")) ⟨⟨#['a', 'b'], 1, []⟩, #[]⟩ := by
    rw [Pattern.new, Engine.step]
    simp only [Engine.matchRegex, Engine.cursor_bind, Regex.Program.toCompiled, Regex.Program.byteCaptures]
    have hrest : (String.ofList (Cursor.ofString "ab").rest).toList.toArray = #['a', 'b'] := rfl
    rw [hrest, hsearch]
    rfl
  have hm := Engine.consume_of_step hstep
  exact ⟨hp, hv, hm, regex_reports_groups hp hv hm⟩

end Backtrack
