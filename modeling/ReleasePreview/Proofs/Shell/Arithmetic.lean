import ReleasePreview.Proofs.Returns
import ReleasePreview.Shell.Arithmetic

/-!
Arithmetic of a shell: all values are integers of 64 bits, and what does not count gives no variable
a value.
-/
namespace ReleasePreview.Shell.Arithmetic

section Numbers

/-- An integer of 64 bits. -/
def InRange (n : Int) : Prop := Decimal.minInteger ≤ n ∧ n ≤ Decimal.maxInteger

theorem inRange_wrapped (n : Int) : InRange (Decimal.wrapped n) := by
  have hlow := Int.le_bmod (x := n) (m := 18446744073709551616) (by decide)
  have hhigh := Int.bmod_lt (x := n) (m := 18446744073709551616) (by decide)
  unfold InRange Decimal.minInteger Decimal.maxInteger Decimal.wrapped
  omega

theorem inRange_clamped (n : Int) : InRange (Decimal.clamped n) := by
  unfold InRange Decimal.clamped Decimal.minInteger Decimal.maxInteger
  omega

theorem inRange_truth (b : Bool) : InRange (truth b) := by
  unfold InRange Decimal.minInteger Decimal.maxInteger truth
  split <;> omega

theorem inRange_complement {n : Int} (h : InRange n) : InRange (-n - 1) := by
  unfold InRange Decimal.minInteger Decimal.maxInteger at *
  omega

theorem inRange_numberOf {value : String} {n : Int} (h : numberOf value = .ok n) : InRange n := by
  unfold numberOf at h
  split at h
  · split at h
    · exact Except.ok.inj h ▸ inRange_clamped _
    · contradiction
  · split at h
    · exact Except.ok.inj h ▸ inRange_truth false
    · contradiction

/-- The numbers of a text are in range. -/
theorem inRange_of_mem_symbols {n : Int} {fuel : Nat} {s : List Char}
    (h : .number n ∈ symbols fuel s) : InRange n := by
  induction fuel generalizing s with
  | zero => simp [symbols] at h
  | succ fuel ih =>
    rw [symbols] at h
    split at h
    · contradiction
    · split at h
      · split at h
        · rcases List.mem_cons.mp h with heq | h
          · exact Symbol.number.inj heq ▸ inRange_clamped _
          · exact ih h
        · simp at h
      · split at h
        · exact ih (List.mem_of_ne_of_mem (by simp) h)
        · split at h
          · exact ih (List.mem_of_ne_of_mem (by simp) h)
          · simp at h

end Numbers

/-- All numbers that are read or kept are in range. Where nothing counts, variables are as they
were. -/
structure Scan.Good (counts : Bool) (given : List (String × Int)) (s : Scan) : Prop where
  numbers (n : Int) (h : .number n ∈ s.rest) : InRange n
  values (v : String × Int) (h : v ∈ s.given) : InRange v.2
  untouched (h : counts = false) : s.given = given

/-- What a reading gives is in range, and what it leaves is good again. -/
def Sound (counts : Bool) (x : Reading Int) : Prop :=
  ∀ given, Returns (Scan.Good counts given) x fun n s => InRange n ∧ Scan.Good counts given s

section Readings

variable {counts isChosen : Bool} {x : Reading Int} {n : Int} {α : Type}
  {given : List (String × Int)}

theorem sound_pure (h : InRange n) : Sound counts (pure n) :=
  fun _ => returns_pure fun _ hs => ⟨h, hs⟩

theorem sound_fail (message : String) : Sound counts (fail message) :=
  fun _ => returns_throw _

theorem Sound.bind {f : Int → Reading Int} (hx : Sound counts x)
    (hf : ∀ n, InRange n → Sound counts (f n)) : Sound counts (x >>= f) := by
  refine fun given => (hx given).bind fun n => returns_of_forall fun s ⟨hn, hs⟩ => ?_
  rintro _ a s' rfl hrun
  exact hf n hn given s a s' hs hrun

theorem returns_skip : Returns (Scan.Good counts given) skip fun _ => Scan.Good counts given :=
  returns_modify fun _ hs => ⟨fun n hn => hs.numbers n (List.mem_of_mem_drop hn), hs.values,
    hs.untouched⟩

theorem sound_skip_bind {f : Unit → Reading Int} (h : Sound counts (f ())) :
    Sound counts (skip >>= f) :=
  fun given => returns_skip.bind fun _ => h given

theorem sound_peek_bind {f : Option Symbol → Reading Int}
    (h : ∀ t, (∀ n, t = some (.number n) → InRange n) → Sound counts (f t)) :
    Sound counts (peek >>= f) := by
  intro given
  have hpeek : Returns (Scan.Good counts given) peek fun t s =>
      (∀ n, t = some (.number n) → InRange n) ∧ Scan.Good counts given s := by
    refine returns_get.bind fun s => returns_pure fun s' ⟨heq, hs⟩ => ?_
    subst heq
    exact ⟨fun n hn => hs.numbers n (List.mem_of_mem_head? hn), hs⟩
  refine hpeek.bind fun t => returns_of_forall fun s ⟨ht, hs⟩ => ?_
  rintro _ n s' rfl hrun
  exact h t ht given s n s' hs hrun

theorem sound_get_bind {f : Scan → Reading Int} (h : ∀ s, Sound counts (f s)) :
    Sound counts (get >>= f) :=
  fun given => returns_get.bind fun s => returns_of_forall fun _ ⟨heq, hs⟩ => by
    subst heq
    rintro _ n s' rfl hrun
    exact h s given s n s' hs hrun

/-- A variable is given a value that is in range. -/
theorem sound_give {name : String} (hn : InRange n) : Sound true (do
    modify fun s => { s with given := (name, n) :: s.given.filter (·.1 ≠ name) }
    return n) := by
  intro given
  have hgive : Returns (Scan.Good true given)
      (modify fun s => { s with given := (name, n) :: s.given.filter (·.1 ≠ name) }
        : Reading Unit) fun _ => Scan.Good true given := by
    refine returns_modify fun s hs => ⟨hs.numbers, fun v hv => ?_, fun h => by contradiction⟩
    rcases List.mem_cons.mp hv with rfl | hv
    · exact hn
    · exact hs.values v (List.mem_filter.mp hv).1
  exact hgive.bind fun _ => returns_pure fun _ hs => ⟨hn, hs⟩

/-- What does not count in what counts may be anything. -/
theorem Sound.of_and (h : Sound (counts && isChosen) x) : Sound counts x := by
  intro given
  cases counts with
  | false => exact h given
  | true =>
    refine returns_of_forall fun s hs => ?_
    rintro _ n s' rfl hrun
    obtain ⟨hn, hs'⟩ := h s.given s n s' ⟨hs.numbers, hs.values, fun _ => rfl⟩ hrun
    exact ⟨hn, hs'.numbers, hs'.values, fun h => by contradiction⟩

theorem sound_lookUp (values : String → Option String) (name : String) :
    Sound counts (lookUp values name) := by
  refine fun given => returns_get.bind fun s => returns_of_forall fun s' ⟨heq, hs⟩ => ?_
  subst heq
  split
  · next n hn =>
    obtain ⟨before, after, hgiven, -⟩ := List.lookup_eq_some_iff.mp hn
    have hmem : (name, n) ∈ s.given := hgiven ▸ List.mem_append_cons_self
    exact returns_pure fun _ heq => heq ▸ ⟨hs.values _ hmem, hs⟩
  · exact returns_lift fun n hn _ heq => heq ▸ ⟨inRange_numberOf hn, hs⟩

theorem sound_combine (sign : String) (a b : Int) : Sound counts (combine sign a b) := by
  unfold combine
  split
  · exact sound_pure (inRange_wrapped _)
  · exact sound_fail _

/-- A reading under a condition that is not met is refused. -/
theorem sound_unless {c : Prop} [Decidable c] {message : String} {f : α → Reading Int}
    (h : Sound counts x) : Sound counts (if c then fail message >>= f else x) :=
  fun given => returns_unless (h given)

end Readings

/-- All readings are sound, whatever their fuel. -/
theorem sound_all (values : String → Option String) (fuel : Nat) :
    (∀ counts, Sound counts (operand values fuel counts)) ∧
    (∀ counts rank n, InRange n → Sound counts (operation values fuel counts rank n)) ∧
    (∀ counts, Sound counts (conjunction values fuel counts)) ∧
    (∀ counts, Sound counts (disjunction values fuel counts)) ∧
    (∀ counts, Sound counts (choice values fuel counts)) ∧
    ∀ counts, Sound counts (assignment values fuel counts) := by
  induction fuel with
  | zero =>
    exact ⟨fun _ => sound_fail _, fun _ _ _ hn => sound_pure hn, fun _ => sound_fail _,
      fun _ => sound_fail _, fun _ => sound_fail _, fun _ => sound_fail _⟩
  | succ fuel ih =>
    obtain ⟨hoperand, hoperation, hconjunction, hdisjunction, hchoice, hassignment⟩ := ih
    refine ⟨fun counts => ?operand, fun counts rank n hn => ?operation,
      fun counts => ?conjunction, fun counts => ?disjunction, fun counts => ?choice,
      fun counts => ?assignment⟩
    case operand =>
      rw [operand]
      refine sound_peek_bind fun t ht => ?_
      split
      · next n => exact sound_skip_bind (sound_pure (ht n rfl))
      · next name =>
        refine sound_skip_bind ?_
        split
        · exact sound_lookUp values name
        · exact sound_pure (inRange_truth false)
      · refine sound_skip_bind ((hassignment counts).bind fun n hn => ?_)
        exact sound_peek_bind fun _ _ => sound_unless (sound_skip_bind (sound_pure hn))
      · exact sound_skip_bind (hoperand counts)
      · exact sound_skip_bind ((hoperand counts).bind fun n _ => sound_pure (inRange_wrapped _))
      · exact sound_skip_bind ((hoperand counts).bind fun n _ => sound_pure (inRange_truth _))
      · exact sound_skip_bind ((hoperand counts).bind fun n hn =>
          sound_pure (inRange_complement hn))
      · exact sound_fail _
    case operation =>
      rw [operation]
      refine sound_peek_bind fun t _ => ?_
      split
      · split
        · split
          · exact sound_pure hn
          · refine sound_skip_bind ((hoperand counts).bind fun m hm => ?_)
            refine (hoperation counts _ m hm).bind fun m hm => ?_
            dsimp only
            split
            · exact (sound_combine _ n m).bind fun n hn => hoperation counts rank n hn
            · exact (sound_pure hm).bind fun n hn => hoperation counts rank n hn
        · exact sound_pure hn
      · exact sound_pure hn
    case conjunction =>
      rw [conjunction]
      refine (hoperand counts).bind fun n hn => (hoperation counts 0 n hn).bind fun n hn => ?_
      refine sound_peek_bind fun t _ => ?_
      split
      · refine sound_skip_bind ((hconjunction _).of_and.bind fun m _ => ?_)
        exact sound_pure (inRange_truth _)
      · exact sound_pure hn
    case disjunction =>
      rw [disjunction]
      refine (hconjunction counts).bind fun n hn => sound_peek_bind fun t _ => ?_
      split
      · refine sound_skip_bind ((hdisjunction _).of_and.bind fun m _ => ?_)
        exact sound_pure (inRange_truth _)
      · exact sound_pure hn
    case choice =>
      rw [choice]
      refine (hdisjunction counts).bind fun n hn => sound_peek_bind fun t _ => ?_
      split
      · refine sound_skip_bind ((hassignment _).of_and.bind fun yes hyes => ?_)
        refine sound_peek_bind fun t _ => sound_unless (sound_skip_bind ?_)
        refine (hchoice _).of_and.bind fun no hno => sound_pure ?_
        split
        · exact hyes
        · exact hno
      · exact sound_pure hn
    case assignment =>
      rw [assignment]
      refine sound_get_bind fun s => ?_
      split
      · dsimp only
        split
        · refine sound_skip_bind (sound_skip_bind ((hassignment counts).bind fun n hn => ?_))
          cases counts with
          | false => exact sound_pure hn
          | true =>
            simp only [Bool.not_true, Bool.false_eq_true, if_false]
            split
            · exact (sound_pure hn).bind fun n hn => sound_give hn
            · refine (sound_lookUp values _).bind fun m _ => ?_
              exact (sound_combine _ m n).bind fun n hn => sound_give hn
        · exact hchoice counts
      · exact hchoice counts

/-- The value of an expression is an integer of 64 bits, and so is what variables are given. -/
theorem inRange_of_evaluate {values : String → Option String} {text : String} {n : Int}
    {given : List (String × Int)} (h : evaluate values text = .ok (n, given)) :
    InRange n ∧ ∀ v ∈ given, InRange v.2 := by
  let all := symbols (text.length + 1) text.toList
  change ((assignment values (8 * all.length + 16) true).run { rest := all }).bind (fun r =>
    if r.2.rest.isEmpty then .ok (r.1, r.2.given) else .error (.malformed "expecting EOF")) =
      .ok (n, given) at h
  cases hrun : (assignment values (8 * all.length + 16) true).run { rest := all } with
  | error fault =>
    rw [hrun] at h
    contradiction
  | ok r =>
    obtain ⟨m, after⟩ := r
    have hgood : Scan.Good true [] { rest := all } :=
      ⟨fun n hn => inRange_of_mem_symbols hn, fun v hv => by contradiction, fun h => rfl⟩
    obtain ⟨hm, hafter⟩ := (sound_all values _).2.2.2.2.2 true [] _ m after hgood hrun
    rw [hrun] at h
    simp only [Except.bind] at h
    split at h
    · obtain ⟨rfl, rfl⟩ := Prod.mk.inj (Except.ok.inj h)
      exact ⟨hm, hafter.values⟩
    · contradiction

/-- What is only read gives no variable a value. -/
theorem given_of_not_counts {values : String → Option String} {fuel : Nat} {s s' : Scan} {n : Int}
    (hnumbers : ∀ n, .number n ∈ s.rest → InRange n) (hvalues : ∀ v ∈ s.given, InRange v.2)
    (h : (assignment values fuel false).run s = .ok (n, s')) : s'.given = s.given :=
  ((sound_all values fuel).2.2.2.2.2 false s.given s n s' ⟨hnumbers, hvalues, fun _ => rfl⟩
    h).2.untouched rfl

end ReleasePreview.Shell.Arithmetic
