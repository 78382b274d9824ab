import ReleasePreview.Proofs.Regex.Search
import ReleasePreview.Proofs.Returns
import ReleasePreview.Regex.Parse

/-!
Expressions that are read ask for nothing to be there more often than it may be, whatever way they
are written in, so that the groups of their matches can be found.
-/
namespace ReleasePreview.Regex

open Expression (IsBounded)

namespace Reader

variable {d : Dialect} {s rest : List Char} {e : Expression} {fuel depth least most : ℕ}

/-- Bounds with more at least than at most are a fault. -/
theorem le_of_repetition? (hfault : repetitionFault? d s = none)
    (h : repetition? d s = some (least, some most, rest)) : least ≤ most := by
  unfold repetition? at h
  unfold repetitionFault? at hfault
  split at h
  case h_3 | h_5 =>
    obtain ⟨rfl, rfl, -⟩ : 0 = least ∧ 1 = most ∧ _ = rest := by simpa using h
    exact Nat.zero_le 1
  case h_6 s' hextended =>
    split at h
    · next hbounds => simpa [hextended, hbounds, h] using hfault
    · contradiction
  case h_7 s' hextended => simpa [hextended, h] using hfault
  all_goals simp at h

theorem repeating_bounded (he : IsBounded e) :
    Returns (fun _ => True) (repeating d fuel e) fun e _ => IsBounded e := by
  induction fuel generalizing e with
  | zero => exact returns_pure fun _ _ => he
  | succ fuel ih =>
    rw [repeating]
    refine returns_get.bind fun s => ?_
    cases hfault : repetitionFault? d s.rest with
    | some fault => exact returns_throw_bind fault _
    | none =>
      dsimp only
      refine returns_get.bind fun s' => returns_of_forall fun _ hs => ?_
      obtain ⟨rfl, rfl, -⟩ := hs
      cases hfound : repetition? d s.rest with
      | none => exact returns_pure fun _ _ => he
      | some found =>
        obtain ⟨least, most, rest⟩ := found
        have hmost : ∀ m ∈ most, least ≤ m := fun m hm =>
          le_of_repetition? hfault (hfound.trans (by rw [Option.mem_def.mp hm]))
        exact (returns_modify fun _ _ => trivial).bind fun _ => ih ⟨he, hmost⟩

theorem set_bounded : Returns (fun _ => True) (set d) fun e _ => IsBounded e := by
  unfold set
  have hmembers (negated : Bool) (s : List Char) : Returns (fun _ => True) (do
      let r ← setItems d true (s.length + 1) s
      modify ({ · with rest := r.2 })
      return .set negated r.1 : Reader Expression) fun e _ => IsBounded e :=
    returns_true.bind fun _ => returns_true.bind fun _ => returns_pure fun _ _ => trivial
  refine returns_true.bind fun s => ?_
  dsimp only
  split
  · exact returns_unless (hmembers _ _)
  · exact hmembers _ _

theorem named?_bounded {c : Char} (h : named? c = some e) : IsBounded e := by
  unfold named? at h
  split at h
  case h_11 => contradiction
  all_goals
    obtain rfl := Option.some.inj h
    trivial

/-- Whatever the fuel, choices, branches and parts of them are bounded. -/
theorem choice_branch_atom_bounded (d : Dialect) (fuel : ℕ) :
    (∀ depth, Returns (fun _ => True) (choice d fuel depth) fun e _ => IsBounded e) ∧
    (∀ depth isFirst e, IsBounded e →
      Returns (fun _ => True) (branch d fuel depth isFirst e) fun e _ => IsBounded e) ∧
    ∀ depth isFirst, Returns (fun _ => True) (atom d fuel depth isFirst) fun r _ =>
      IsBounded r.2 := by
  induction fuel with
  | zero =>
    exact ⟨fun _ => returns_pure fun _ _ => trivial, fun _ _ e he => returns_pure fun _ _ => he,
      fun _ _ => returns_pure fun _ _ => trivial⟩
  | succ fuel ih =>
    obtain ⟨hchoice, hbranch, hatom⟩ := ih
    refine ⟨fun depth => ?_, fun depth isFirst e he => ?_, fun depth isFirst => ?_⟩
    · rw [choice]
      refine (hbranch depth true .empty trivial).bind fun e => returns_of_forall fun s he => ?_
      have hrest (n : ℕ) : Returns (fun _ => True) (do
          take n
          return .choice e (← choice d fuel depth)) fun e _ => IsBounded e :=
        returns_true.bind fun _ => (hchoice depth).bind fun _ => returns_pure fun _ hf => ⟨he, hf⟩
      refine returns_true.bind fun s' => ?_
      split
      · exact hrest 1
      · exact hrest 2
      · exact returns_pure fun _ _ => he
    · rw [branch]
      refine returns_true.bind fun s => ?_
      dsimp only
      split
      · split
        · exact returns_throw_bind _ _
        · exact returns_unless (returns_pure fun _ _ => he)
      · refine (hatom depth isFirst).bind fun r => returns_of_forall fun s' hr => ?_
        have hrest (x : Reader Expression)
            (hx : Returns (fun _ => True) x fun e _ => IsBounded e) :
            Returns (fun _ => True) (do
              let part ← x
              branch d fuel depth (r.1 && isFirst) (if e = .empty then part else .sequence e part))
              fun e _ => IsBounded e := by
          refine hx.bind fun part => returns_of_forall fun s'' hpart => ?_
          have hwhole : IsBounded (if e = .empty then part else .sequence e part) := by
            split
            · exact hpart
            · exact ⟨he, hpart⟩
          exact (hbranch _ _ _ hwhole).anywhere
        split
        · exact (hrest (pure r.2) (returns_pure fun _ _ => hr)).anywhere
        · exact (hrest (repeating d s.rest.length r.2) (repeating_bounded hr)).anywhere
    · rw [atom]
      refine returns_true.bind fun s => ?_
      dsimp only
      have hgroup (count : ℕ) (close : List Char) : Returns (fun _ => True) (do
          take count
          let number := (← get).groups + 1
          modify fun s => { s with groups := number }
          let e ← choice d fuel (depth + 1)
          if !close.isPrefixOf (← get).rest then throw "Unmatched ( or \\("
          take close.length
          return (false, .group number e)) fun r _ => IsBounded r.2 := by
        refine returns_true.bind fun _ => returns_true.bind fun s' => returns_true.bind fun _ => ?_
        refine (hchoice (depth + 1)).bind fun e => returns_of_forall fun s'' he => ?_
        refine returns_true.bind fun _ => returns_unless ?_
        exact returns_true.bind fun _ => returns_pure fun _ _ => he
      split
      case h_1 => exact returns_pure fun _ _ => trivial
      case h_3 => 
        exact returns_true.bind fun _ => set_bounded.bind fun _ => returns_pure fun _ he => he
      case h_4 => exact hgroup 1 _
      case h_5 => exact hgroup 2 _
      case h_6 | h_7 => 
        refine returns_true.bind fun _ => returns_pure fun _ _ => ?_
        split <;> trivial
      case h_8 | h_13 | h_14 =>
        exact returns_unless (returns_true.bind fun _ => returns_pure fun _ _ => trivial)
      case h_9 c _ _ _ =>
        split
        · exact returns_true.bind fun _ => returns_pure fun _ _ => trivial
        · refine returns_true.bind fun _ => ?_
          split
          · exact returns_true.bind fun _ => returns_unless (returns_pure fun _ _ => trivial)
          · split
            · next e he =>
              have hnamed : IsBounded e := by
                split at he
                · exact named?_bounded he
                · contradiction
              exact returns_pure fun _ _ => hnamed
            · exact returns_pure fun _ _ => trivial
      case h_10 | h_11 | h_12 =>
        split
        · exact returns_true.bind fun _ => returns_pure fun _ _ => trivial
        · exact returns_throw _
      case h_2 | h_15 => exact returns_true.bind fun _ => returns_pure fun _ _ => trivial

end Reader

theorem parse_bounded {d : Dialect} {s : List Char} {e : Expression} {n : ℕ}
    (h : parse d s = .ok (e, n)) : IsBounded e := by
  unfold parse at h
  cases hrun : (Reader.choice d (4 * s.length + 8) 0).run { rest := s } with
  | error text =>
    rw [hrun] at h
    contradiction
  | ok r =>
    obtain ⟨e', after⟩ := r
    have he' := (Reader.choice_branch_atom_bounded d _).1 0 _ e' after trivial hrun
    rw [hrun] at h
    change (if after.rest.isEmpty then Except.ok (e', after.groups) else Except.error _) = _ at h
    split at h
    · obtain ⟨rfl, -⟩ := Prod.mk.inj (Except.ok.inj h)
      exact he'
    · contradiction

/-- A match of an expression that was read is one with its groups. -/
theorem search?_parse {d : Dialect} {s : List Char} {e : Expression} {n : ℕ}
    (h : parse d s = .ok (e, n)) {t : Subject} {i : ℕ} {m : Match} (hi : i ≤ t.size)
    (hm : e.search? t true i = some m) :
    Expression.Captures t e (m.start, []) (m.stop, m.groups) :=
  (Expression.search?_captures (parse_bounded h) hi hm).1

end ReleasePreview.Regex
