/-!
Programs with a state that may fail: what holds of the state that they leave and of what they
return, if something holds of the state that they begin in.
-/
namespace ReleasePreview

variable {σ ε α β : Type}

/-- From states with a property a program comes to results and states with another one, unless it
fails. -/
def Returns (before : σ → Prop) (x : StateT σ (Except ε) α) (after : α → σ → Prop) : Prop :=
  ∀ s a s', before s → x.run s = .ok (a, s') → after a s'

variable {before : σ → Prop} {x : StateT σ (Except ε) α} {f : α → StateT σ (Except ε) β}
  {after : α → σ → Prop} {last : β → σ → Prop} {a : α}

theorem Returns.mono {after' : α → σ → Prop} (h : Returns before x after)
    (himp : ∀ a s, after a s → after' a s) : Returns before x after' :=
  fun s a s' hs hrun => himp a s' (h s a s' hs hrun)

theorem Returns.anywhere (h : Returns (fun _ => True) x after) : Returns before x after :=
  fun s a s' _ hrun => h s a s' trivial hrun

theorem returns_true : Returns before x fun _ _ => True :=
  fun _ _ _ _ _ => trivial

/-- It is enough to look at each state that a program may begin in. -/
theorem returns_of_forall (h : ∀ s, before s → Returns (s = ·) x after) :
    Returns before x after :=
  fun s a s' hs hrun => h s hs s a s' rfl hrun

theorem returns_pure (h : ∀ s, before s → after a s) :
    Returns before (pure a : StateT σ (Except ε) α) after := by
  intro s b s' hs hrun
  obtain ⟨rfl, rfl⟩ : a = b ∧ s = s' := Prod.mk.inj (Except.ok.inj hrun)
  exact h s hs

theorem returns_throw (e : ε) : Returns before (throw e : StateT σ (Except ε) α) after := by
  intro s a s' _ hrun
  contradiction

theorem returns_throw_bind (e : ε) (f : α → StateT σ (Except ε) β) :
    Returns before ((throw e : StateT σ (Except ε) α) >>= f) last := by
  intro s a s' _ hrun
  contradiction

/-- What is refused beforehand need not be looked at. -/
theorem returns_unless {c : Prop} [Decidable c] {e : ε} {f : α → StateT σ (Except ε) β}
    {y : StateT σ (Except ε) β} (h : Returns before y last) :
    Returns before (if c then (throw e : StateT σ (Except ε) α) >>= f else y) last := by
  split
  · exact returns_throw_bind e f
  · exact h

theorem Returns.bind (hx : Returns before x after) (hf : ∀ a, Returns (after a) (f a) last) :
    Returns before (x >>= f) last := by
  intro s b s' hs hrun
  cases hfirst : x.run s with
  | error e =>
    have hfail : (x >>= f).run s = .error e := by
      rw [StateT.run_bind, hfirst]
      rfl
    rw [hfail] at hrun
    contradiction
  | ok r =>
    obtain ⟨a, s''⟩ := r
    have hrest : (x >>= f).run s = (f a).run s'' := by
      rw [StateT.run_bind, hfirst]
      rfl
    exact hf a s'' b s' (hx s a s'' hs hfirst) (hrest ▸ hrun)

theorem returns_get :
    Returns before (get : StateT σ (Except ε) σ) fun s s' => s = s' ∧ before s := by
  intro s a s' hs hrun
  obtain ⟨rfl, rfl⟩ : s = a ∧ s = s' := Prod.mk.inj (Except.ok.inj hrun)
  exact ⟨rfl, hs⟩

theorem returns_modify {g : σ → σ} {after : σ → Prop} (h : ∀ s, before s → after (g s)) :
    Returns before (modify g : StateT σ (Except ε) PUnit) fun _ => after := by
  intro s a s' hs hrun
  obtain ⟨-, rfl⟩ : PUnit.unit = a ∧ g s = s' := Prod.mk.inj (Except.ok.inj hrun)
  exact h s hs

/-- What may fail and knows nothing of the state. -/
theorem returns_lift {y : Except ε α} (h : ∀ a, y = .ok a → ∀ s, before s → after a s) :
    Returns before (liftM y : StateT σ (Except ε) α) after := by
  intro s a s' hs hrun
  cases y with
  | error e => contradiction
  | ok b =>
    obtain ⟨rfl, rfl⟩ : b = a ∧ s = s' := Prod.mk.inj (Except.ok.inj hrun)
    exact h b rfl s hs

end ReleasePreview
