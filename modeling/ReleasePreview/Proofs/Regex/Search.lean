import ReleasePreview.Proofs.Regex.Ends

/-!
Matches as they are searched for: the first place where an expression matches, and the longest match
there. The groups of a match are found by going over it once more, the longest way first.
-/
namespace ReleasePreview.Regex.Expression

variable {t : Subject} {e a b : Expression} {i j k n stop : ℕ} {groups : Bool} {m : Match}

section Places

theorem Spans.le (h : Spans t e i j) (hi : i ≤ t.size) : i ≤ j ∧ j ≤ t.size := by
  induction e generalizing i j with
  | empty => exact ⟨Nat.le_of_eq h, h ▸ hi⟩
  | char c =>
    obtain ⟨rfl, hany⟩ := h
    exact ⟨Nat.le_succ i, lt_size_of_any hany⟩
  | any =>
    obtain ⟨rfl, hlt⟩ := h
    exact ⟨Nat.le_succ i, hlt⟩
  | set negated items =>
    obtain ⟨rfl, p, -, hany⟩ := h
    exact ⟨Nat.le_succ i, lt_size_of_any hany⟩
  | edge e => exact ⟨Nat.le_of_eq h.1, h.1 ▸ hi⟩
  | sequence a b iha ihb =>
    obtain ⟨k, hik, hkj⟩ := h
    obtain ⟨hk, hk'⟩ := iha hik hi
    obtain ⟨hj, hj'⟩ := ihb hkj hk'
    exact ⟨Nat.le_trans hk hj, hj'⟩
  | choice a b iha ihb => exact h.elim (iha · hi) (ihb · hi)
  | group _ a iha => exact iha h hi
  | repeated a least most iha =>
    obtain ⟨n, -, -, hn⟩ := h
    refine hn.preserves (P := fun k => i ≤ k ∧ k ≤ t.size) (fun k l hkl hk => ?_)
      ⟨Nat.le_refl i, hi⟩
    obtain ⟨hl, hl'⟩ := iha hkl hk.2
    exact ⟨Nat.le_trans hk.1 hl, hl'⟩
  | reference n => exact h

/-- The character that every match begins with. -/
theorem Spans.first {c : Char} (h : Spans t e i j) (hc : e.first? = some c) :
    (t.text[i]?).any (t.same c) := by
  induction e generalizing j with
  | char d =>
    obtain rfl := Option.some.inj hc
    exact h.2
  | sequence a b iha =>
    obtain ⟨k, hik, -⟩ := h
    exact iha hik hc
  | group n a iha => exact iha h hc
  | _ => contradiction

end Places

section Longest

/-- A match that begins at a place, and that no other one is longer than. -/
structure IsLongest (t : Subject) (e : Expression) (i stop : ℕ) : Prop where
  spans : Spans t e i stop
  le_stop (j : ℕ) (h : Spans t e i j) : j ≤ stop

theorem IsLongest.unique {stop' : ℕ} (h : IsLongest t e i stop) (h' : IsLongest t e i stop') :
    stop = stop' :=
  Nat.le_antisymm (h'.le_stop stop h.spans) (h.le_stop stop' h'.spans)

theorem isLongest_of_getLast? (hi : i ≤ t.size) (h : (ends t e [i]).getLast? = some stop) :
    IsLongest t e i stop := by
  obtain ⟨front, hfront⟩ := List.getLast?_eq_some_iff.mp h
  refine ⟨(mem_ends e hi).mp (hfront ▸ by simp), fun j hj => ?_⟩
  have hmem := (mem_ends e hi).mpr hj
  have hpairwise := ((along_ends t e).ordered (ordered_singleton hi)).ascending
  rw [hfront] at hmem hpairwise
  rcases List.mem_append.mp hmem with hmem | hmem
  · exact Nat.le_of_lt ((List.pairwise_append.mp hpairwise).2.2 j hmem stop (by simp))
  · exact Nat.le_of_eq (List.mem_singleton.mp hmem)

theorem getLast?_ends_eq_none (e : Expression) (hi : i ≤ t.size) :
    (ends t e [i]).getLast? = none ↔ ∀ j, ¬ Spans t e i j := by
  rw [List.getLast?_eq_none_iff, List.eq_nil_iff_forall_not_mem]
  exact forall_congr' fun j => not_congr (mem_ends e hi)

theorem getLast?_ends (e : Expression) (hi : i ≤ t.size) :
    (ends t e [i]).getLast? = some stop ↔ IsLongest t e i stop := by
  refine ⟨isLongest_of_getLast? hi, fun h => ?_⟩
  cases hlast : (ends t e [i]).getLast? with
  | none => exact absurd h.spans ((getLast?_ends_eq_none e hi).mp hlast stop)
  | some last => rw [(isLongest_of_getLast? hi hlast).unique h]

theorem matchAt?_eq_none (href : e.hasReference = false) (hi : i ≤ t.size) :
    e.matchAt? t groups i = none ↔ ∀ j, ¬ Spans t e i j := by
  rw [← getLast?_ends_eq_none e hi, matchAt?]
  cases (ends t e [i]).getLast? with
  | none => simp
  | some last => cases groups <;> simp [href]

theorem matchAt?_eq_some (href : e.hasReference = false) (hi : i ≤ t.size)
    (h : e.matchAt? t groups i = some m) : m.start = i ∧ IsLongest t e i m.stop := by
  rw [matchAt?] at h
  cases hlast : (ends t e [i]).getLast? with
  | none => simp [hlast] at h
  | some last =>
    have hlongest := isLongest_of_getLast? hi hlast
    cases groups with
    | false =>
      obtain rfl : (⟨i, last, []⟩ : Match) = m := by simpa [hlast, href] using h
      exact ⟨rfl, hlongest⟩
    | true =>
      obtain ⟨gs, rfl⟩ : ∃ gs, (⟨i, last, gs⟩ : Match) = m := ⟨_, by simpa [hlast, href] using h⟩
      exact ⟨rfl, hlongest⟩

end Longest

section Search

/-- The first place from some place on where an expression matches, and the longest match there. -/
structure IsFirst (t : Subject) (e : Expression) (i start stop : ℕ) : Prop where
  le : i ≤ start
  le_size : start ≤ t.size
  longest : IsLongest t e start stop
  not_before (k : ℕ) (hik : i ≤ k) (hk : k < start) (j : ℕ) : ¬ Spans t e k j

/-- A place where another character stands than every match begins with may be passed over. -/
theorem searchFrom_succ (href : e.hasReference = false) (hi : i ≤ t.size) (fuel : ℕ) :
    e.searchFrom t groups (fuel + 1) i = (e.matchAt? t groups i).or
      (if i < t.size then e.searchFrom t groups fuel (i + 1) else none) := by
  cases hfirst : e.first? with
  | none => cases hmatch : e.matchAt? t groups i <;> simp [searchFrom, hfirst, hmatch]
  | some c =>
    by_cases hany : (t.text[i]?).any (t.same c)
    · cases hmatch : e.matchAt? t groups i <;> simp [searchFrom, hfirst, hany, hmatch]
    · have hnone : e.matchAt? t groups i = none :=
        (matchAt?_eq_none href hi).mpr fun j hj => hany (hj.first hfirst)
      simp [searchFrom, hfirst, hany, hnone]

theorem searchFrom_spec (groups : Bool) (href : e.hasReference = false) {fuel : ℕ} (hi : i ≤ t.size)
    (hfuel : t.size < i + fuel) :
    (e.searchFrom t groups fuel i = none → ∀ k, i ≤ k → k ≤ t.size → ∀ j, ¬ Spans t e k j) ∧
      ∀ m, e.searchFrom t groups fuel i = some m → IsFirst t e i m.start m.stop := by
  induction fuel generalizing i with
  | zero => omega
  | succ fuel ih =>
    rw [searchFrom_succ href hi]
    cases hmatch : e.matchAt? t groups i with
    | some m =>
      obtain ⟨hstart, hlongest⟩ := matchAt?_eq_some href hi hmatch
      refine ⟨fun h => by contradiction, fun m' hm' => ?_⟩
      obtain rfl := Option.some.inj hm'
      subst hstart
      exact ⟨Nat.le_refl _, hi, hlongest, fun k hik hk => absurd hk (Nat.not_lt.mpr hik)⟩
    | none =>
      have hnone := (matchAt?_eq_none href hi).mp hmatch
      by_cases hlt : i < t.size
      · simp only [hlt, if_true, Option.none_or]
        obtain ⟨hrest, hfound⟩ := ih (i := i + 1) hlt (by omega)
        constructor
        · intro h k hik hk
          rcases Nat.eq_or_lt_of_le hik with rfl | hik
          · exact hnone
          · exact hrest h k hik hk
        · intro m hm
          obtain ⟨hle, hsize, hlongest, hbefore⟩ := hfound m hm
          refine ⟨by omega, hsize, hlongest, fun k hik hk => ?_⟩
          rcases Nat.eq_or_lt_of_le hik with rfl | hik
          · exact hnone
          · exact hbefore k hik hk
      · simp only [hlt, if_false, Option.none_or]
        refine ⟨fun _ k hik hk => ?_, fun m hm => by contradiction⟩
        obtain rfl : k = i := by omega
        exact hnone

/-- Nothing is found just if the expression matches nowhere. -/
theorem search?_eq_none (href : e.hasReference = false) (hi : i ≤ t.size) :
    e.search? t groups i = none ↔ ∀ k, i ≤ k → k ≤ t.size → ∀ j, ¬ Spans t e k j := by
  obtain ⟨hnone, hsome⟩ := searchFrom_spec groups href hi
    (show t.size < i + (t.size + 1 - i) by omega)
  refine ⟨hnone, fun h => ?_⟩
  cases hsearch : e.search? t groups i with
  | none => rfl
  | some m =>
    have hfirst := hsome m hsearch
    exact absurd hfirst.longest.spans (h m.start hfirst.le hfirst.le_size m.stop)

/-- What is found is the longest of the first matches. -/
theorem search?_eq_some (href : e.hasReference = false) (hi : i ≤ t.size)
    (h : e.search? t groups i = some m) : IsFirst t e i m.start m.stop :=
  (searchFrom_spec groups href hi (by omega)).2 m h

end Search

section Captures

/-- A match from one place to another, with the groups known before and behind it. A reference is
taken for the text of its group. -/
def Captures (t : Subject) : Expression → ℕ × Groups → ℕ × Groups → Prop
  | sequence a b, x, z => ∃ y, Captures t a x y ∧ Captures t b y z
  | choice a b, x, y => Captures t a x y ∨ Captures t b x y
  | group n a, (i, gs), (j, gs') =>
    ∃ inner, Captures t a (i, gs) (j, inner) ∧ gs' = (n, i, j) :: inner.filter (·.1 ≠ n)
  | reference n, (i, gs), (j, gs') => follows t gs n i = some j ∧ gs' = gs
  | repeated a least most, x, y =>
    ∃ n, least ≤ n ∧ (∀ m ∈ most, n ≤ m) ∧ Times (Captures t a) n x y
  | e, (i, gs), (j, gs') => Spans t e i j ∧ gs' = gs

variable {x y : ℕ × Groups} {gs gs' : Groups} {next : ℕ → Groups → Option Groups} {out : Groups}

theorem follows_le (h : follows t gs n i = some j) (hi : i ≤ t.size) : i ≤ j ∧ j ≤ t.size := by
  obtain ⟨⟨start, stop⟩, -, h⟩ := Option.bind_eq_some_iff.mp h
  dsimp only at h
  split at h
  · next hsame =>
    obtain rfl := Option.some.inj h
    refine ⟨Nat.le_add_right .., ?_⟩
    by_contra hlt
    have hlast := List.all_eq_true.mp hsame (stop - start - 1) (List.mem_range.mpr (by omega))
    have hnone : t.text[i + (stop - start - 1)]? = none :=
      Array.getElem?_eq_none_iff.mpr (show t.size ≤ _ by omega)
    simp [hnone] at hlast
  · contradiction

/-- What is captured is matched as far as references are taken for any text. -/
theorem Captures.spans (h : Captures t e x y) (hx : x.1 ≤ t.size) : Spans t e x.1 y.1 := by
  induction e generalizing x y with
  | sequence a b iha ihb =>
    obtain ⟨z, hxz, hzy⟩ := h
    have ha := iha hxz hx
    exact ⟨z.1, ha, ihb hzy (ha.le hx).2⟩
  | choice a b iha ihb => exact h.imp (iha · hx) (ihb · hx)
  | group n a iha =>
    obtain ⟨i, gs⟩ := x
    obtain ⟨j, gs'⟩ := y
    obtain ⟨inner, h, -⟩ := h
    have hspans := iha h hx
    exact hspans
  | reference n => exact follows_le h.1 hx
  | repeated a least most iha =>
    obtain ⟨n, hleast, hmost, hn⟩ := h
    refine ⟨n, hleast, fun m hm => Nat.le_trans (hmost m hm) (Nat.le_max_right ..), ?_⟩
    clear hleast hmost
    induction n generalizing x with
    | zero => exact congrArg Prod.fst hn
    | succ n ih =>
      obtain ⟨z, hxz, hzy⟩ := hn
      have ha := iha hxz hx
      exact ⟨z.1, ha, ih (ha.le hx).2 hzy⟩
  | _ => exact h.1

/-- The rounds go along the part that is repeated, as often as they may. The fuel does not run out,
since each round takes a character or is one of those that there must be. -/
theorem rounds_sound {part : ℕ → Groups → (ℕ → Groups → Option Groups) → Option Groups}
    {r : ℕ × Groups → ℕ × Groups → Prop}
    (hpart : ∀ {i gs next}, i ≤ t.size → part i gs next = some out →
      ∃ j gs', r (i, gs) (j, gs') ∧ next j gs' = some out)
    (hle : ∀ {i gs j gs'}, r (i, gs) (j, gs') → i ≤ t.size → i ≤ j ∧ j ≤ t.size)
    {fuel least : ℕ} {most : Option ℕ} (hi : i ≤ t.size) (hfuel : t.size - i + least < fuel)
    (h : rounds part next fuel least most i gs = some out) :
    ∃ n j gs', least ≤ n ∧ (∀ m ∈ most, n ≤ m) ∧ Times r n (i, gs) (j, gs') ∧
      next j gs' = some out := by
  induction fuel generalizing least most i gs with
  | zero => omega
  | succ fuel ih =>
    rw [rounds] at h
    split at h
    · next again =>
      obtain rfl := Option.some.inj h
      split at again
      · contradiction
      · next hmost =>
        obtain ⟨j, gs', hr, hnext⟩ := hpart hi again
        obtain ⟨hij, hj⟩ := hle hr hi
        split at hnext
        · contradiction
        · next hfurther =>
          obtain ⟨n, k, gs'', hleast, hmost', hn, hout⟩ := ih hj (by
            simp at hfurther
            omega) hnext
          refine ⟨n + 1, k, gs'', by omega, fun m hm => ?_, ⟨_, hr, hn⟩, hout⟩
          obtain rfl : most = some m := hm
          have hm' := hmost' (m - 1) rfl
          have hpos : m ≠ 0 := fun hm => hmost (hm ▸ rfl)
          omega
    · split at h
      · next hleast => exact ⟨0, i, gs, by omega, fun m _ => Nat.zero_le m, rfl, h⟩
      · contradiction

theorem capture_sound (hi : i ≤ t.size) (h : capture t e i gs next = some out) :
    ∃ j gs', Captures t e (i, gs) (j, gs') ∧ next j gs' = some out := by
  induction e generalizing i gs next out with
  | empty => exact ⟨i, gs, ⟨rfl, rfl⟩, h⟩
  | char c =>
    rw [capture] at h
    split at h
    · next hany => exact ⟨i + 1, gs, ⟨⟨rfl, hany⟩, rfl⟩, h⟩
    · contradiction
  | any =>
    rw [capture] at h
    split at h
    · next hlt => exact ⟨i + 1, gs, ⟨⟨rfl, hlt⟩, rfl⟩, h⟩
    · contradiction
  | set negated items =>
    obtain ⟨p, hp⟩ : ∃ p, single? t (set negated items) = some p := ⟨_, rfl⟩
    simp only [capture, hp] at h
    split at h
    · next hany => exact ⟨i + 1, gs, ⟨⟨rfl, p, hp, hany⟩, rfl⟩, h⟩
    · contradiction
  | edge e =>
    rw [capture] at h
    split at h
    · next hholds => exact ⟨i, gs, ⟨⟨rfl, hholds⟩, rfl⟩, h⟩
    · contradiction
  | sequence a b iha ihb =>
    obtain ⟨j, gs', ha, h⟩ := iha hi h
    obtain ⟨k, gs'', hb, h⟩ := ihb (ha.spans hi |>.le hi).2 h
    exact ⟨k, gs'', ⟨_, ha, hb⟩, h⟩
  | choice a b iha ihb =>
    rw [capture] at h
    split at h
    · next ha =>
      obtain ⟨j, gs', hcaptures, hnext⟩ := iha hi ha
      exact ⟨j, gs', .inl hcaptures, hnext.trans h⟩
    · obtain ⟨j, gs', hcaptures, hnext⟩ := ihb hi h
      exact ⟨j, gs', .inr hcaptures, hnext⟩
  | group n a iha =>
    obtain ⟨j, gs', ha, h⟩ := iha hi h
    exact ⟨j, _, ⟨gs', ha, rfl⟩, h⟩
  | reference n =>
    rw [capture] at h
    split at h
    · next j hfollows => exact ⟨j, gs, ⟨hfollows, rfl⟩, h⟩
    · contradiction
  | repeated a least most iha =>
    obtain ⟨n, j, gs', hleast, hmost, hn, hnext⟩ := rounds_sound (fun hi h => iha hi h)
      (fun hr hi => hr.spans hi |>.le hi) hi (by omega) h
    exact ⟨j, gs', ⟨n, hleast, hmost, hn⟩, hnext⟩

/-- A group of an expression, with what is in it. -/
inductive HasGroup (n : ℕ) (inner : Expression) : Expression → Prop
  | here : HasGroup n inner (group n inner)
  | group {number : ℕ} {a : Expression} (h : HasGroup n inner a) : HasGroup n inner (group number a)
  | sequenceLeft {a b : Expression} (h : HasGroup n inner a) : HasGroup n inner (sequence a b)
  | sequenceRight {a b : Expression} (h : HasGroup n inner b) : HasGroup n inner (sequence a b)
  | choiceLeft {a b : Expression} (h : HasGroup n inner a) : HasGroup n inner (choice a b)
  | choiceRight {a b : Expression} (h : HasGroup n inner b) : HasGroup n inner (choice a b)
  | repeated {a : Expression} {least : ℕ} {most : Option ℕ} (h : HasGroup n inner a) :
      HasGroup n inner (repeated a least most)

/-- A text that a group may be known for: it matches what is in the group and lies between two
places. -/
def Lies (t : Subject) (e : Expression) (i j : ℕ) (g : ℕ × ℕ × ℕ) : Prop :=
  ∃ inner, HasGroup g.1 inner e ∧ Spans t inner g.2.1 g.2.2 ∧ i ≤ g.2.1 ∧ g.2.2 ≤ j

theorem Lies.mono {i' j' : ℕ} {g : ℕ × ℕ × ℕ} (h : Lies t a i j g) (hi : i' ≤ i) (hj : j ≤ j')
    (he : ∀ n inner, HasGroup n inner a → HasGroup n inner e) : Lies t e i' j' g := by
  obtain ⟨inner, hgroup, hspans, hstart, hstop⟩ := h
  exact ⟨inner, he _ _ hgroup, hspans, Nat.le_trans hi hstart, Nat.le_trans hstop hj⟩

/-- The groups known behind a match are those known before and those that lie in it. -/
theorem Captures.mem_groups (h : Captures t e x y) (hx : x.1 ≤ t.size) :
    ∀ g ∈ y.2, g ∈ x.2 ∨ Lies t e x.1 y.1 g := by
  induction e generalizing x y with
  | sequence a b iha ihb =>
    obtain ⟨z, hxz, hzy⟩ := h
    obtain ⟨hz, hz'⟩ := (hxz.spans hx).le hx
    have hy := ((hzy.spans hz').le hz').1
    intro g hg
    rcases ihb hzy hz' g hg with hg | hlies
    · exact (iha hxz hx g hg).imp_right (·.mono (Nat.le_refl _) hy fun _ _ => .sequenceLeft)
    · exact .inr (hlies.mono hz (Nat.le_refl _) fun _ _ => .sequenceRight)
  | choice a b iha ihb =>
    intro g hg
    rcases h with h | h
    · exact (iha h hx g hg).imp_right
        (·.mono (Nat.le_refl _) (Nat.le_refl _) fun _ _ => .choiceLeft)
    · exact (ihb h hx g hg).imp_right
        (·.mono (Nat.le_refl _) (Nat.le_refl _) fun _ _ => .choiceRight)
  | group n a iha =>
    obtain ⟨i, gs⟩ := x
    obtain ⟨j, gs'⟩ := y
    obtain ⟨inner, h, rfl⟩ := h
    have hspans := h.spans hx
    intro g hg
    rcases List.mem_cons.mp hg with rfl | hg
    · exact .inr ⟨a, .here, hspans, Nat.le_refl _, Nat.le_refl _⟩
    · exact (iha h hx g (List.mem_of_mem_filter hg)).imp_right
        (·.mono (Nat.le_refl _) (Nat.le_refl _) fun _ _ => .group)
  | reference n =>
    obtain ⟨i, gs⟩ := x
    obtain ⟨j, gs'⟩ := y
    obtain ⟨-, rfl⟩ := h
    exact fun g hg => .inl hg
  | repeated a least most iha =>
    obtain ⟨n, -, -, hn⟩ := h
    have hkept := hn.preserves (P := fun z => x.1 ≤ z.1 ∧ z.1 ≤ t.size ∧
      ∀ g ∈ z.2, g ∈ x.2 ∨ Lies t (repeated a least most) x.1 z.1 g) (fun z z' hz h => ?_)
      ⟨Nat.le_refl _, hx, fun g hg => .inl hg⟩
    · exact hkept.2.2
    · obtain ⟨hle, hsize, hgroups⟩ := h
      obtain ⟨hz', hsize'⟩ := (hz.spans hsize).le hsize
      refine ⟨Nat.le_trans hle hz', hsize', fun g hg => ?_⟩
      rcases iha hz hsize g hg with hg | hlies
      · exact (hgroups g hg).imp_right (·.mono (Nat.le_refl _) hz' fun _ _ h => h)
      · exact .inr (hlies.mono hle (Nat.le_refl _) fun _ _ => .repeated)
  | _ =>
    obtain ⟨i, gs⟩ := x
    obtain ⟨j, gs'⟩ := y
    obtain ⟨-, rfl⟩ := h
    exact fun g hg => .inl hg

/-- Nothing in an expression has to be there more often than it may be. -/
def IsBounded : Expression → Prop
  | sequence a b => IsBounded a ∧ IsBounded b
  | choice a b => IsBounded a ∧ IsBounded b
  | group _ a => IsBounded a
  | repeated a least most => IsBounded a ∧ ∀ m ∈ most, least ≤ m
  | _ => True

/-- Rounds that lead somewhere are found. Those that take no character and need not be there are
left out. -/
theorem rounds_complete {part : ℕ → Groups → (ℕ → Groups → Option Groups) → Option Groups}
    {r : ℕ → ℕ → Prop}
    (hpart : ∀ {i j gs next}, i ≤ t.size → r i j → (∀ gs', (next j gs').isSome) →
      (part i gs next).isSome)
    (hle : ∀ {i j}, r i j → i ≤ t.size → i ≤ j ∧ j ≤ t.size) (hnext : ∀ gs, (next j gs).isSome)
    {fuel least : ℕ} {most : Option ℕ} (hi : i ≤ t.size) (hfuel : t.size - i + least < fuel)
    (hleast : least ≤ n) (hmost : ∀ m ∈ most, n ≤ m) (hn : Times r n i j) (gs : Groups) :
    (rounds part next fuel least most i gs).isSome := by
  induction n generalizing fuel least most i gs with
  | zero =>
    obtain rfl : i = j := hn
    obtain rfl := Nat.le_zero.mp hleast
    cases fuel with
    | zero => exact hnext gs
    | succ fuel =>
      rw [rounds]
      split
      · rfl
      · simpa using hnext gs
  | succ n ih =>
    obtain ⟨k, hik, hkj⟩ := hn
    obtain ⟨hk, hk'⟩ := hle hik hi
    by_cases hempty : k = i ∧ least = 0
    · obtain ⟨rfl, rfl⟩ := hempty
      exact ih hi hfuel (Nat.zero_le n) (fun m hm => Nat.le_of_succ_le (hmost m hm)) hkj gs
    · cases fuel with
      | zero => omega
      | succ fuel =>
        have hagain : most ≠ some 0 := fun hzero => absurd (hmost 0 hzero) (by omega)
        have hrest (gs' : Groups) :
            (rounds part next fuel (least - 1) (most.map (· - 1)) k gs').isSome := by
          refine ih hk' (by omega) (by omega) (fun m hm => ?_) hkj gs'
          obtain ⟨m', hm', rfl⟩ := Option.map_eq_some_iff.mp hm
          have hle := hmost m' hm'
          omega
        have hfound : (part i gs fun j gs =>
            if j = i && least = 0 then none
            else rounds part next fuel (least - 1) (most.map (· - 1)) j gs).isSome :=
          hpart hi hik fun gs' => by simpa [hempty] using hrest gs'
        rw [rounds]
        simp only [hagain, if_false]
        split
        · rfl
        · next hnone =>
          rw [hnone] at hfound
          contradiction

/-- Without references, a match from one place to another is captured if what comes next there goes
well. -/
theorem capture_complete (hbounded : IsBounded e) (href : e.hasReference = false)
    (hi : i ≤ t.size) (h : Spans t e i j) (hnext : ∀ gs, (next j gs).isSome) (gs : Groups) :
    (capture t e i gs next).isSome := by
  induction e generalizing i j gs next with
  | empty =>
    obtain rfl : i = j := h
    exact hnext gs
  | char c =>
    obtain ⟨rfl, hany⟩ := h
    simpa [capture, hany] using hnext gs
  | any =>
    obtain ⟨rfl, hlt⟩ := h
    simpa [capture, hlt] using hnext gs
  | set negated items =>
    obtain ⟨rfl, p, hp, hany⟩ := h
    simpa [capture, hp, hany] using hnext gs
  | edge e =>
    obtain ⟨rfl, hholds⟩ := h
    simpa [capture, hholds] using hnext gs
  | sequence a b iha ihb =>
    obtain ⟨hrefa, hrefb⟩ : a.hasReference = false ∧ b.hasReference = false := by
      simpa [hasReference] using href
    obtain ⟨k, hik, hkj⟩ := h
    have hk := (hik.le hi).2
    exact iha hbounded.1 hrefa hi hik
      (fun gs' => ihb hbounded.2 hrefb hk hkj hnext gs') gs
  | choice a b iha ihb =>
    obtain ⟨hrefa, hrefb⟩ : a.hasReference = false ∧ b.hasReference = false := by
      simpa [hasReference] using href
    rw [capture]
    split
    · rfl
    · next hnone =>
      rcases h with h | h
      · have hfound := iha hbounded.1 hrefa hi h hnext gs
        simp [hnone] at hfound
      · exact ihb hbounded.2 hrefb hi h hnext gs
  | group n a iha =>
    rw [capture]
    refine iha hbounded href hi h (fun gs' => ?_) gs
    exact hnext _
  | reference n => contradiction
  | repeated a least most iha =>
    obtain ⟨n, hleast, hmost, hn⟩ := h
    have hmax : ∀ m ∈ most, n ≤ m := fun m hm => by
      rw [← Nat.max_eq_right (hbounded.2 m hm)]
      exact hmost m hm
    exact rounds_complete (fun hi h hnext => iha hbounded.1 href hi h hnext _)
      (fun h hi => h.le hi) hnext hi (by omega) hleast hmax hn gs

/-- The groups of a match up to some place. -/
theorem captures_of_capture {groups : Groups} (hi : i ≤ t.size)
    (h : capture t e i [] (fun j gs => if j = stop then some gs else none) = some groups) :
    Captures t e (i, []) (stop, groups) := by
  obtain ⟨j, gs, hcaptures, hnext⟩ := capture_sound hi h
  split at hnext
  · next hj =>
    obtain rfl := Option.some.inj hnext
    exact hj ▸ hcaptures
  · contradiction

/-- The groups of a match are those that come of matching up to its end. -/
theorem matchAt?_captures (hbounded : IsBounded e) (hi : i ≤ t.size)
    (h : e.matchAt? t true i = some m) :
    m.start = i ∧ Captures t e (i, []) (m.stop, m.groups) := by
  rw [matchAt?] at h
  cases hlast : (ends t e [i]).getLast? with
  | none => simp [hlast] at h
  | some last =>
    cases href : e.hasReference with
    | true =>
      simp only [hlast, href, if_true] at h
      obtain ⟨stop, -, hstop⟩ := List.exists_of_findSome?_eq_some h
      obtain ⟨groups, hgroups, rfl⟩ := Option.map_eq_some_iff.mp hstop
      exact ⟨rfl, captures_of_capture hi hgroups⟩
    | false =>
      have hspans := (isLongest_of_getLast? hi hlast).spans
      have hfound : (capture t e i [] fun j gs => if j = last then some gs else none).isSome :=
        capture_complete hbounded href hi hspans (by simp) []
      obtain ⟨groups, hgroups⟩ := Option.isSome_iff_exists.mp hfound
      obtain rfl : (⟨i, last, groups⟩ : Match) = m := by simpa [hlast, href, hgroups] using h
      exact ⟨rfl, captures_of_capture hi hgroups⟩

theorem exists_matchAt?_of_searchFrom {fuel : ℕ} (hi : i ≤ t.size)
    (h : e.searchFrom t groups fuel i = some m) :
    ∃ k, k ≤ t.size ∧ e.matchAt? t groups k = some m := by
  induction fuel generalizing i with
  | zero => contradiction
  | succ fuel ih =>
    rw [searchFrom] at h
    split at h
    · next m' hmatch =>
      obtain rfl := Option.some.inj h
      exact ⟨i, hi, (Option.ite_none_right_eq_some.mp hmatch).2⟩
    · split at h
      · next hlt => exact ih hlt h
      · contradiction

/-- A match that is found, also of an expression with references, is one with its groups, and what
a group stands for lies in the match. -/
theorem search?_captures (hbounded : IsBounded e) (hi : i ≤ t.size)
    (h : e.search? t true i = some m) : Captures t e (m.start, []) (m.stop, m.groups) ∧
      ∀ g ∈ m.groups, Lies t e m.start m.stop g := by
  obtain ⟨k, hk, hmatch⟩ := exists_matchAt?_of_searchFrom hi h
  obtain ⟨rfl, hcaptures⟩ := matchAt?_captures hbounded hk hmatch
  refine ⟨hcaptures, fun g hg => ?_⟩
  exact (hcaptures.mem_groups hk g hg).resolve_left List.not_mem_nil

end Captures

end ReleasePreview.Regex.Expression
