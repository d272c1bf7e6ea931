import Backtrack.Regex.Compile

/-!
# Group zero takes part in every match

The compiler wraps an expression in group zero: the program starts by recording where group
zero opens, and the only instruction that leads to the accepting one records where it closes.
Every thread of the machine descends from a first one at the position it was started from, so
it has recorded the opening, and a thread accepts only after the closing. Hence every match
that the machine finds, from whichever position of the text, reports a span for group zero.

The machine part is an instance of one principle (`Program.Carries`): a property of pending
empty moves, waiting threads and accepted slots that each kind of instruction carries over
holds of every match, once it holds of the first move. The compiler part follows the
instructions as they are emitted and patched (`Keeps`), one case per kind of expression.

Main statements: `Program.WrapsZero.span?_zero` and `Program.wrapsZero_of_compile`.
-/

namespace Backtrack
namespace Regex

/-- The instructions an instruction leads to. -/
def Inst.targets : Inst → List Nat
  | .read _ n | .jump n | .save _ n | .look _ n => [n]
  | .split a b => [a, b]
  | .accept => []

/-- Whether the empty moves of a thread stop at the instruction: it reads or accepts. -/
def Inst.halts : Inst → Bool
  | .read .. | .accept => true
  | _ => false

namespace Program

/-! ### Invariants of the machine -/

/-- A property of the machine closed under its moves: `P pos pc slots` of an empty move pending
at `pc`, `T pos t` of a thread waiting at `pos` and `A slots` of an accepted match. -/
structure Carries (prog : Program) (text : Array Char) (P : Nat → Nat → Array (Option Nat) → Prop)
    (T : Nat → Thread → Prop) (A : Array (Option Nat) → Prop) : Prop where
  jump {pos pc n : Nat} {slots : Array (Option Nat)} :
    prog.insts[pc]? = some (.jump n) → P pos pc slots → P pos n slots
  split {pos pc a b : Nat} {slots : Array (Option Nat)} :
    prog.insts[pc]? = some (.split a b) → P pos pc slots → P pos a slots ∧ P pos b slots
  save {pos pc k n : Nat} {slots : Array (Option Nat)} :
    prog.insts[pc]? = some (.save k n) → P pos pc slots → P pos n (slots.set! k (some pos))
  look {pos pc n : Nat} {l : Look} {slots : Array (Option Nat)} :
    prog.insts[pc]? = some (.look l n) → P pos pc slots → P pos n slots
  halt {pos pc : Nat} {inst : Inst} {slots : Array (Option Nat)} :
    prog.insts[pc]? = some inst → inst.halts → P pos pc slots → T pos ⟨pc, slots⟩
  read {pos n : Nat} {rs : Array (Nat × Nat)} {t : Thread} :
    prog.insts[t.pc]? = some (.read rs n) → pos < text.size → T pos t → P (pos + 1) n t.slots
  accept {pos : Nat} {t : Thread} : prog.insts[t.pc]? = some .accept → T pos t → A t.slots

variable {prog : Program} {text : Array Char} {P : Nat → Nat → Array (Option Nat) → Prop}
  {T : Nat → Thread → Prop} {A : Array (Option Nat) → Prop}

theorem halts_of_not_moves {inst : Inst} (hj : ∀ n, inst ≠ .jump n) (hs : ∀ a b, inst ≠ .split a b)
    (hv : ∀ k n, inst ≠ .save k n) (hl : ∀ l n, inst ≠ .look l n) : inst.halts := by
  cases inst with
  | read | accept => rfl
  | jump n => exact absurd rfl (hj n)
  | split a b => exact absurd rfl (hs a b)
  | save k n => exact absurd rfl (hv k n)
  | look l n => exact absurd rfl (hl l n)

/-- The empty moves from a pending move that satisfies `P` leave threads that satisfy `T`. -/
theorem Carries.follow_threads (hc : prog.Carries text P T A) {pos : Nat} :
    ∀ (fuel pc : Nat) (slots : Array (Option Nat)) (acc : Array Thread × Array Bool),
      P pos pc slots → (∀ t ∈ acc.1, T pos t) → ∀ t ∈ (prog.follow text pos fuel pc slots acc).1, T pos t := by
  intro fuel
  induction fuel with
  | zero => intro pc slots acc _ hacc; exact hacc
  | succ fuel ih =>
    intro pc slots acc hp hacc
    obtain ⟨ts, seen⟩ := acc
    unfold follow
    split
    · exact hacc
    · split
      · rename_i n h
        exact ih _ _ _ (hc.jump h hp) hacc
      · rename_i a b h
        exact ih _ _ _ (hc.split h hp).2 (ih _ _ _ (hc.split h hp).1 hacc)
      · rename_i k n h
        exact ih _ _ _ (hc.save h hp) hacc
      · rename_i l n h
        split
        · exact ih _ _ _ (hc.look h hp) hacc
        · exact hacc
      · rename_i inst hj hs hv hl h
        intro t ht
        rcases Array.mem_push.mp ht with ht | rfl
        · exact hacc t ht
        · exact hc.halt h (halts_of_not_moves hj hs hv hl) hp
      · exact hacc

/-- Stepping the threads at `pos` over a character leaves threads for `pos + 1` and, if one
accepts, slots that satisfy `A`. -/
theorem Carries.stepAll_threads (hc : prog.Carries text P T A) (pos : Nat) :
    ∀ (threads : List Thread) (acc : Array Thread × Array Bool),
      (∀ t ∈ threads, T pos t) → (∀ t ∈ acc.1, T (pos + 1) t) →
      (∀ t ∈ (prog.stepAll text pos threads acc).1, T (pos + 1) t) ∧
        ∀ slots, (prog.stepAll text pos threads acc).2 = some slots → A slots := by
  intro threads
  induction threads with
  | nil => intro acc _ hacc; exact ⟨hacc, by simp [stepAll]⟩
  | cons t rest ih =>
    intro acc hts hacc
    have hrest : ∀ u ∈ rest, T pos u := fun u hu ↦ hts u (List.mem_cons_of_mem _ hu)
    have ht : T pos t := hts t (List.mem_cons_self ..)
    unfold stepAll
    split
    · rename_i h
      exact ⟨hacc, by simpa using hc.accept h ht⟩
    · rename_i rs n h
      split
      · rename_i ch hch
        have hlt : pos < text.size := (Array.getElem?_eq_some_iff.mp hch).1
        split
        · exact ih _ hrest (hc.follow_threads _ _ _ _ (hc.read h hlt ht) hacc)
        · exact ih _ hrest hacc
      · exact ih _ hrest hacc
    · exact ih _ hrest hacc

theorem Carries.round_threads (hc : prog.Carries text P T A) {pos : Nat} {threads next : Array Thread}
    {best found : Option (Array (Option Nat))} (hts : ∀ t ∈ threads, T pos t)
    (hbest : ∀ slots, best = some slots → A slots)
    (hstep : prog.stepAll text pos threads.toList (#[], Array.replicate prog.insts.size false) =
      (next, found)) :
    (∀ t ∈ next, T (pos + 1) t) ∧ ∀ slots, (found.orElse fun _ ↦ best) = some slots → A slots := by
  have hall := hc.stepAll_threads pos threads.toList (#[], Array.replicate prog.insts.size false)
    (fun t ht ↦ hts t (Array.mem_toList_iff.mp ht)) (fun t ht ↦ by simp at ht)
  rw [hstep] at hall
  refine ⟨hall.1, fun slots hs ↦ ?_⟩
  cases hf : found with
  | some f =>
    simp only [hf, Option.orElse_some, Option.some.injEq] at hs
    exact hs ▸ hall.2 f hf
  | none =>
    simp only [hf, Option.orElse_none] at hs
    exact hbest slots hs

theorem Carries.run_slots (hc : prog.Carries text P T A) (pos : Nat) (threads : Array Thread)
    (best : Option (Array (Option Nat))) (hts : ∀ t ∈ threads, T pos t)
    (hbest : ∀ slots, best = some slots → A slots) :
    ∀ slots, prog.run text pos threads best = some slots → A slots := by
  induction pos, threads, best using run.induct prog text with
  | case1 pos threads best hempty => rw [run, if_pos hempty]; exact hbest
  | case2 pos threads best hempty fresh next found hstep best' hlt ih =>
    intro slots hs
    rw [run, if_neg hempty] at hs
    simp only [fresh] at hstep
    simp only [hstep, if_pos hlt] at hs
    have hround := hc.round_threads hts hbest hstep
    exact ih hround.1 hround.2 slots hs
  | case3 pos threads best hempty fresh next found hstep hlt =>
    intro slots hs
    rw [run, if_neg hempty] at hs
    simp only [fresh] at hstep
    simp only [hstep, if_neg hlt] at hs
    exact (hc.round_threads hts hbest hstep).2 slots hs

/-- A property carried by the machine holds of every match from a position, once it holds of
the first move there. -/
theorem Carries.capturesFrom_slots (hc : prog.Carries text P T A) {start : Nat}
    (hinit : P start prog.start (Array.replicate (2 * prog.groups) none)) {slots : Array (Option Nat)}
    (h : prog.capturesFrom text start = some slots) : A slots := by
  unfold capturesFrom at h
  exact hc.run_slots start _ none (hc.follow_threads (prog.insts.size + 1) prog.start _
    (#[], Array.replicate prog.insts.size false) hinit fun t ht ↦ by simp at ht) (by simp) slots h

/-- A property carried by the machine holds of the leftmost-first match, once it holds of the
first move at every position of the text. -/
theorem Carries.search_slots (hc : prog.Carries text P T A)
    (hinit : ∀ start ≤ text.size, P start prog.start (Array.replicate (2 * prog.groups) none))
    {slots : Array (Option Nat)} (h : prog.search text = some slots) : A slots := by
  obtain ⟨start, hmem, hfound⟩ := List.exists_of_findSome?_eq_some h
  exact hc.capturesFrom_slots (hinit start (Nat.lt_succ_iff.mp (List.mem_range.mp hmem))) hfound

/-! ### Programs wrapped in group zero -/

/-- Slot `k` holds a position. -/
def Recorded (slots : Array (Option Nat)) (k : Nat) : Prop := ∃ i, slots[k]? = some (some i)

theorem Recorded.set {slots : Array (Option Nat)} {k : Nat} (h : Recorded slots k) (j pos : Nat) :
    Recorded (slots.set! j (some pos)) k := by
  obtain ⟨i, hi⟩ := h
  have hk : k < slots.size := (Array.getElem?_eq_some_iff.mp hi).1
  rw [Recorded, Array.set!_eq_setIfInBounds, Array.getElem?_setIfInBounds]
  by_cases hj : j = k
  · exact ⟨pos, by simp [hj, hk]⟩
  · exact ⟨i, by simp [hj, hi]⟩

theorem recorded_set_self {slots : Array (Option Nat)} {k : Nat} (hk : k < slots.size) (pos : Nat) :
    Recorded (slots.set! k (some pos)) k :=
  ⟨pos, by simp [Array.set!_eq_setIfInBounds, hk]⟩

/-- A program wrapped in group zero: it has group zero, it starts by recording the start of
group zero, and only the recording of the end of group zero leads to an accepting instruction. -/
structure WrapsZero (prog : Program) : Prop where
  groups_pos : 0 < prog.groups
  opens : ∃ n, prog.insts[prog.start]? = some (.save 0 n)
  closes {pc n : Nat} {inst : Inst} :
    prog.insts[pc]? = some inst → n ∈ inst.targets → prog.insts[n]? = some .accept → inst = .save 1 n

/-- The empty moves of a program wrapped in group zero: group zero is open unless the move is
the first, and an accepting instruction is reached only with group zero closed. -/
def ZeroPending (prog : Program) (pc : Nat) (slots : Array (Option Nat)) : Prop :=
  2 ≤ slots.size ∧ (Recorded slots 0 ∨ pc = prog.start) ∧ (prog.insts[pc]? = some .accept → Recorded slots 1)

/-- A waiting thread has group zero open, and closed if it accepts. -/
def ZeroThread (prog : Program) (t : Thread) : Prop :=
  2 ≤ t.slots.size ∧ Recorded t.slots 0 ∧ (prog.insts[t.pc]? = some .accept → Recorded t.slots 1)

variable {prog : Program}

theorem WrapsZero.ne_start (hz : prog.WrapsZero) {pc : Nat} {inst : Inst} (h : prog.insts[pc]? = some inst)
    (hi : ∀ n, inst ≠ .save 0 n) : pc ≠ prog.start := by
  rintro rfl
  obtain ⟨n, hn⟩ := hz.opens
  exact hi n (Option.some.inj (h.symm.trans hn))

/-- A move that records nothing keeps what is pending, as long as it is not the first. -/
theorem WrapsZero.pending_of_move (hz : prog.WrapsZero) {pc n : Nat} {inst : Inst}
    {slots : Array (Option Nat)} (h : prog.insts[pc]? = some inst) (hn : n ∈ inst.targets)
    (hi : ∀ k m, inst ≠ .save k m) (hp : ZeroPending prog pc slots) : ZeroPending prog n slots := by
  obtain ⟨hsize, hopen, -⟩ := hp
  refine ⟨hsize, .inl ?_, fun ha ↦ absurd (hz.closes h hn ha) (hi 1 n)⟩
  rcases hopen with hopen | hstart
  · exact hopen
  · exact absurd hstart (hz.ne_start h fun m ↦ hi 0 m)

theorem WrapsZero.carries (hz : prog.WrapsZero) (text : Array Char) :
    prog.Carries text (fun _ ↦ ZeroPending prog) (fun _ ↦ ZeroThread prog)
      (fun slots ↦ Recorded slots 0 ∧ Recorded slots 1) where
  jump h hp := hz.pending_of_move h (by simp [Inst.targets]) (fun _ _ ↦ Inst.noConfusion) hp
  split h hp :=
    ⟨hz.pending_of_move h (by simp [Inst.targets]) (fun _ _ ↦ Inst.noConfusion) hp,
      hz.pending_of_move h (by simp [Inst.targets]) (fun _ _ ↦ Inst.noConfusion) hp⟩
  save := by
    intro pos pc k n slots h hp
    obtain ⟨hsize, hopen, -⟩ := hp
    refine ⟨by simpa using hsize, ?_, fun ha ↦ ?_⟩
    · rcases hopen with hopen | hstart
      · exact .inl (hopen.set k pos)
      · obtain ⟨m, hm⟩ := hz.opens
        rw [← hstart, h] at hm
        cases hm
        exact .inl (recorded_set_self (by omega) pos)
    · cases hz.closes h (by simp [Inst.targets]) ha
      exact recorded_set_self (by omega) pos
  look h hp := hz.pending_of_move h (by simp [Inst.targets]) (fun _ _ ↦ Inst.noConfusion) hp
  halt := by
    intro pos pc inst slots h hh hp
    obtain ⟨hsize, hopen, hclose⟩ := hp
    refine ⟨hsize, ?_, hclose⟩
    rcases hopen with hopen | hstart
    · exact hopen
    · refine absurd hstart (hz.ne_start h fun m e ↦ ?_)
      simp [e, Inst.halts] at hh
  read := by
    intro pos n rs t h _ ht
    obtain ⟨hsize, hopen, -⟩ := ht
    exact ⟨hsize, .inl hopen, fun ha ↦ Inst.noConfusion (hz.closes h (by simp [Inst.targets]) ha)⟩
  accept h ht := ⟨ht.2.1, ht.2.2 h⟩

/-- In a program wrapped in group zero, the leftmost-first match records both ends of group
zero. -/
theorem WrapsZero.span?_zero (hz : prog.WrapsZero) {text : Array Char} {slots : Array (Option Nat)}
    (h : prog.search text = some slots) : ∃ s e, span? slots 0 = some (s, e) := by
  have hinit : ∀ start ≤ text.size, ZeroPending prog prog.start (Array.replicate (2 * prog.groups) none) := by
    intro _ _
    refine ⟨by simp; have := hz.groups_pos; omega, .inr rfl, fun ha ↦ ?_⟩
    obtain ⟨n, hn⟩ := hz.opens
    cases ha.symm.trans hn
  obtain ⟨⟨s, hs⟩, ⟨e, he⟩⟩ := (hz.carries text).search_slots hinit h
  exact ⟨s, e, by simp [span?, hs, he]⟩

end Program

/-! ### Compiling wraps the expression in group zero -/

/-- The instructions while an expression inside group zero is compiled: the first accepts, no
other does, and only the recording of the end of group zero leads to the first. -/
def Shaped (insts : Array Inst) : Prop :=
  insts[0]? = some .accept ∧
    ∀ {i : Nat} {inst : Inst}, insts[i]? = some inst → 0 < i →
      inst ≠ .accept ∧ (0 ∈ inst.targets → inst = .save 1 0)

/-- A compiling step that keeps the instructions shaped and returns a value `Q` holds of. -/
def Keeps {α : Type} (Q : α → Prop) (x : StateM (Array Inst) α) : Prop :=
  ∀ insts, Shaped insts → Shaped (x.run insts).2 ∧ Q (x.run insts).1

/-- An instruction that may join shaped instructions after the first. -/
def Inst.Fresh (i : Inst) : Prop := i ≠ .accept ∧ 0 ∉ i.targets

@[simp] theorem emit_run (i : Inst) (insts : Array Inst) : (emit i).run insts = (insts.size, insts.push i) :=
  rfl

@[simp] theorem patch_run (pc : Nat) (i : Inst) (insts : Array Inst) :
    (patch pc i).run insts = ((), insts.set! pc i) := rfl

theorem fork_fresh (greedy : Bool) {a b : Nat} (ha : a ≠ 0) (hb : b ≠ 0) : (fork greedy a b).Fresh := by
  cases greedy <;> simp [fork, Inst.Fresh, Inst.targets, ha.symm, hb.symm]

variable {α β : Type} {Q : α → Prop} {R : β → Prop}

theorem keeps_pure {a : α} (h : Q a) : Keeps Q (pure a) := fun _ hs ↦ ⟨hs, h⟩

theorem Keeps.bind {x : StateM (Array Inst) α} {f : α → StateM (Array Inst) β} (hx : Keeps Q x)
    (hf : ∀ a, Q a → Keeps R (f a)) : Keeps R (x >>= f) := by
  intro insts hs
  obtain ⟨hs', hq⟩ := hx insts hs
  exact hf _ hq _ hs'

theorem keeps_emit {i : Inst} (hi : i.Fresh) : Keeps (· ≠ 0) (emit i) := by
  intro insts ⟨h0, hrest⟩
  have hpos : 0 ≠ insts.size := Nat.ne_of_lt (Array.getElem?_eq_some_iff.mp h0).1
  simp only [emit_run]
  refine ⟨⟨by rw [Array.getElem?_push, if_neg hpos]; exact h0, fun {j inst} hj hj0 ↦ ?_⟩, hpos.symm⟩
  rw [Array.getElem?_push] at hj
  split at hj
  · cases hj
    exact ⟨hi.1, fun h ↦ absurd h hi.2⟩
  · exact hrest hj hj0

theorem Keeps.patch {x : StateM (Array Inst) α} (hx : Keeps Q x) {pc : Nat} (hpc : pc ≠ 0) {i : Inst}
    (hi : i.Fresh) : Keeps Q (patch pc i >>= fun _ ↦ x) := by
  intro insts ⟨h0, hrest⟩
  apply hx
  refine ⟨by simpa [Array.set!_eq_setIfInBounds, Array.getElem?_setIfInBounds, hpc] using h0,
    fun {j inst} hj hj0 ↦ ?_⟩
  simp only [Array.set!_eq_setIfInBounds, Array.getElem?_setIfInBounds] at hj
  split at hj
  · split at hj
    · cases hj
      exact ⟨hi.1, fun h ↦ absurd h hi.2⟩
    · cases hj
  · exact hrest hj hj0

/-- A loop whose body keeps `Q` of the value it carries keeps `Q`. -/
theorem keeps_forIn_list (xs : List Nat) {b : α} (hb : Q b)
    {f : Nat → α → StateM (Array Inst) (ForInStep α)} (hf : ∀ i a, Q a → Keeps (fun s ↦ Q s.value) (f i a)) :
    Keeps Q (forIn xs b f) := by
  induction xs generalizing b with
  | nil => exact keeps_pure hb
  | cons x xs ih =>
    rw [List.forIn_cons]
    refine (hf x b hb).bind fun r hr ↦ ?_
    cases r with
    | done a => exact keeps_pure hr
    | yield a => exact ih hr

theorem keeps_forIn_range (r : Std.Legacy.Range) {b : α} (hb : Q b)
    {f : Nat → α → StateM (Array Inst) (ForInStep α)} (hf : ∀ i a, Q a → Keeps (fun s ↦ Q s.value) (f i a)) :
    Keeps Q (forIn r b f) := by
  rw [Std.Legacy.Range.forIn_eq_forIn_range']
  exact keeps_forIn_list _ hb hf

mutual
/-- Compiling an expression to run before an instruction other than the first keeps the
instructions shaped and enters at an instruction other than the first. -/
theorem compileExpr_keeps (h : Expr) {next : Nat} (hn : next ≠ 0) : Keeps (· ≠ 0) (compileExpr h next) := by
  match h with
  | .empty => rw [compileExpr]; exact keeps_pure hn
  | .chars s bytes => rw [compileExpr]; exact keeps_emit (by simp [Inst.Fresh, Inst.targets, hn.symm])
  | .look l => rw [compileExpr]; exact keeps_emit (by simp [Inst.Fresh, Inst.targets, hn.symm])
  | .capture i inner =>
    rw [compileExpr]
    refine (keeps_emit (by simp [Inst.Fresh, Inst.targets, hn.symm])).bind fun close hclose ↦ ?_
    refine (compileExpr_keeps inner hclose).bind fun body hbody ↦ ?_
    exact keeps_emit (by simp [Inst.Fresh, Inst.targets, hbody.symm])
  | .concat items => rw [compileExpr]; exact compileSeq_keeps items hn
  | .alternation alts => rw [compileExpr]; exact compileAlts_keeps alts hn
  | .repetition min (some m) greedy inner =>
    rw [compileExpr]
    refine (keeps_forIn_range (Q := (· ≠ 0)) _ hn fun _ entry hentry ↦ ?_).bind fun entry hentry ↦ ?_
    · refine (compileExpr_keeps inner hentry).bind fun body hbody ↦ ?_
      exact (keeps_emit (fork_fresh greedy hbody hn)).bind fun _ he ↦ keeps_pure he
    · refine (keeps_forIn_range (Q := (· ≠ 0)) _ hentry fun _ e he ↦ ?_).bind fun _ he ↦ keeps_pure he
      exact (compileExpr_keeps inner he).bind fun _ he' ↦ keeps_pure he'
  | .repetition min none greedy inner =>
    rw [compileExpr]
    have hjump : (Inst.jump next).Fresh := by simp [Inst.Fresh, Inst.targets, hn.symm]
    -- each layout emits a jump, compiles the body to run before it and patches the jump into
    -- a fork between the body and the exit
    split
    · split
      · refine (keeps_emit hjump).bind fun loop hloop ↦ ?_
        refine (compileExpr_keeps inner hloop).bind fun body hbody ↦ ?_
        exact (keeps_pure hloop).patch hloop (fork_fresh greedy hbody hn)
      · refine (keeps_emit hjump).bind fun back hback ↦ ?_
        refine (compileExpr_keeps inner hback).bind fun body hbody ↦ ?_
        exact (keeps_emit (fork_fresh greedy hbody hn)).patch hback (fork_fresh greedy hbody hn)
    · refine (keeps_emit hjump).bind fun back hback ↦ ?_
      refine (compileExpr_keeps inner hback).bind fun body hbody ↦ ?_
      refine Keeps.patch ?_ hback (fork_fresh greedy hbody hn)
      refine (keeps_forIn_range (Q := (· ≠ 0)) _ hbody fun _ e he ↦ ?_).bind fun _ he ↦ keeps_pure he
      exact (compileExpr_keeps inner he).bind fun _ he' ↦ keeps_pure he'

theorem compileSeq_keeps (items : List Expr) {next : Nat} (hn : next ≠ 0) :
    Keeps (· ≠ 0) (compileSeq items next) := by
  match items with
  | [] => rw [compileSeq]; exact keeps_pure hn
  | h :: rest =>
    rw [compileSeq]
    exact (compileSeq_keeps rest hn).bind fun _ hr ↦ compileExpr_keeps h hr

theorem compileAlts_keeps (alts : List Expr) {next : Nat} (hn : next ≠ 0) :
    Keeps (· ≠ 0) (compileAlts alts next) := by
  match alts with
  | [] => rw [compileAlts]; exact keeps_emit (by simp [Inst.Fresh, Inst.targets, hn.symm])
  | [h] => rw [compileAlts]; exact compileExpr_keeps h hn
  | h :: h' :: rest =>
    rw [compileAlts.eq_3 _ _ _ (List.cons_ne_nil h' rest)]
    refine (compileExpr_keeps h hn).bind fun first hfirst ↦ ?_
    refine (compileAlts_keeps (h' :: rest) hn).bind fun others hothers ↦ ?_
    exact keeps_emit (by simp [Inst.Fresh, Inst.targets, hfirst.symm, hothers.symm])
end

theorem shaped_accept_close : Shaped #[.accept, .save 1 0] := by
  refine ⟨rfl, fun {i inst} hi hi0 ↦ ?_⟩
  have hlt : i < 2 := (Array.getElem?_eq_some_iff.mp hi).1
  obtain rfl : i = 1 := by omega
  cases hi
  exact ⟨Inst.noConfusion, fun _ ↦ rfl⟩

/-- In shaped instructions, only the end of group zero leads to an accepting instruction. -/
theorem Shaped.closes {insts : Array Inst} (hs : Shaped insts) {pc n : Nat} {inst : Inst}
    (h : insts[pc]? = some inst) (hn : n ∈ inst.targets) (ha : insts[n]? = some .accept) :
    inst = .save 1 n := by
  obtain rfl : n = 0 := by
    refine Nat.eq_zero_of_not_pos fun hpos ↦ ?_
    exact (hs.2 ha hpos).1 rfl
  rcases Nat.eq_zero_or_pos pc with rfl | hpc
  · cases h.symm.trans hs.1
    simp [Inst.targets] at hn
  · exact (hs.2 h hpc).2 hn

/-- The program of an expression is wrapped in group zero. -/
theorem Program.ofExpr_wrapsZero (h : Expr) {groups : Nat} (hg : 0 < groups) :
    (Program.ofExpr h groups).WrapsZero := by
  -- the accepting instruction comes first and the end of group zero second; the body follows,
  -- and the start of group zero is the last instruction
  obtain ⟨hs, hbody⟩ := compileExpr_keeps h Nat.one_ne_zero _ shaped_accept_close
  have hof : Program.ofExpr h groups =
      ⟨((compileExpr h 1).run #[.accept, .save 1 0]).2.push (.save 0 ((compileExpr h 1).run #[.accept, .save 1 0]).1),
        ((compileExpr h 1).run #[.accept, .save 1 0]).2.size, groups⟩ := rfl
  have hlast := keeps_emit (i := .save 0 ((compileExpr h 1).run #[.accept, .save 1 0]).1)
    (by simp [Inst.Fresh, Inst.targets, Ne.symm hbody]) _ hs
  simp only [emit_run] at hlast
  rw [hof]
  generalize (compileExpr h 1).run #[.accept, .save 1 0] = r at hlast
  exact ⟨hg, ⟨r.1, by simp⟩, fun hpc hn ha ↦ hlast.1.closes hpc hn ha⟩

/-- A compiled regular expression is the program of an expression with at least one group. -/
theorem compile_eq_ofExpr {pattern : String} {flags : RegexFlags} {prog : Program}
    (h : compile pattern flags = .ok prog) : ∃ e g, 0 < g ∧ prog = Program.ofExpr e g := by
  unfold compile at h
  cases hp : (parse pattern).mapError Failure.malformed with
  | error e => rw [hp] at h; cases h
  | ok r =>
    rw [hp] at h
    simp only [bind, Except.bind] at h
    split at h
    · split at h
      · cases h
        exact ⟨_, _, by simp [Nat.max_def]; split <;> omega, rfl⟩
      · cases h
    · cases h

/-- A compiled regular expression is wrapped in group zero. -/
theorem Program.wrapsZero_of_compile {pattern : String} {flags : RegexFlags} {prog : Program}
    (hc : compile pattern flags = .ok prog) : prog.WrapsZero := by
  obtain ⟨e, g, hg, rfl⟩ := compile_eq_ofExpr hc
  exact Program.ofExpr_wrapsZero e hg

end Regex
end Backtrack
