import Mathlib.Data.Nat.Notation
import ReleasePreview.Process.Schedule

/-!
Processes beside each other. What all of their steps keep to, a whole run keeps to, and a run goes
on with the earliest process that can go on.
-/
namespace ReleasePreview

variable {r : World → World → Prop} {α β : Type}

/-- Whatever a process and those that it starts do at a step is in a relation. -/
inductive Process.Keeps (r : World → World → Prop) : Process → Prop where
  | ended (status : ℕ) : Keeps r (.ended status)
  | step {act : ℕ → World → Option (World × Process)}
      (hact : ∀ number w w' p, act number w = some (w', p) → r w w')
      (hnext : ∀ number w w' p, act number w = some (w', p) → Keeps r p) : Keeps r (.step act)
  | pause {duration : ℕ} {next : Unit → Process} (hnext : Keeps r (next ())) :
      Keeps r (.pause duration next)
  | fork {child : Process} {next : ℕ → Process} (hchild : Keeps r child)
      (hnext : ∀ number, Keeps r (next number)) : Keeps r (.fork child next)

namespace Program

/-- A program keeps to a relation if what comes after it does. -/
def Keeps (r : World → World → Prop) (x : Program α) : Prop :=
  ∀ next : α → Process, (∀ a, (next a).Keeps r) → Process.Keeps r (x next)

theorem Keeps.process {x : Program ℕ} (h : x.Keeps r) : x.process.Keeps r :=
  h .ended .ended

theorem keeps_pure (a : α) : Keeps r (pure a) :=
  fun _ hnext => hnext a

theorem Keeps.bind {x : Program α} {f : α → Program β} (hx : x.Keeps r)
    (hf : ∀ a, (f a).Keeps r) : (x >>= f).Keeps r :=
  fun next hnext => hx _ fun a => hf a next hnext

theorem keeps_exit (status : ℕ) : Keeps r (exit status : Program α) :=
  fun _ _ => .ended status

theorem keeps_await {act : ℕ → World → Option (World × α)}
    (h : ∀ number w w' a, act number w = some (w', a) → r w w') : Keeps r (await act) := by
  intro next hnext
  refine .step (fun number w w' p hp => ?_) (fun number w w' p hp => ?_)
  · obtain ⟨⟨v, a⟩, hact, heq⟩ := Option.map_eq_some_iff.mp hp
    obtain ⟨rfl, -⟩ := Prod.mk.inj heq
    exact h number w v a hact
  · obtain ⟨⟨v, a⟩, -, heq⟩ := Option.map_eq_some_iff.mp hp
    obtain ⟨-, rfl⟩ := Prod.mk.inj heq
    exact hnext a

theorem keeps_act {f : ℕ → World → World × α} (h : ∀ number w, r w (f number w).1) :
    Keeps r (act f) :=
  keeps_await fun number w w' a heq => by
    obtain rfl : (f number w).1 = w' := congrArg Prod.fst (Option.some.inj heq)
    exact h number w

theorem keeps_ask (hr : ∀ w, r w w) (f : ℕ → World → α) : Keeps r (ask f) :=
  keeps_act fun _ w => hr w

theorem keeps_pause (duration : ℕ) : Keeps r (Program.pause duration) :=
  fun _ hnext => .pause (hnext ())

theorem keeps_fork {child : Program ℕ} (h : child.Keeps r) : Keeps r (fork child) :=
  fun _ hnext => .fork h.process hnext

end Program

namespace Pool

/-- What the world does by itself is in a relation, however often it does so. -/
structure IsNatural (r : World → World → Prop) : Prop where
  refl (w : World) : r w w
  trans {u v w : World} (huv : r u v) (hvw : r v w) : r u w
  clock (w : World) (time : ℕ) (h : w.clock ≤ time) : r w { w with clock := time }
  settleAll (w : World) : r w w.settleAll
  finish (w : World) (number : ℕ) (outcome : ProcessEnd) : r w (w.finish number outcome)
  fork (w : World) (number : ℕ) : r w (w.fork number).1

/-- What no change of the records touches is natural if the clock and new records do not touch it
either. -/
theorem isNatural_of_change (hrefl : ∀ w, r w w) (htrans : ∀ {u v w}, r u v → r v w → r u w)
    (hclock : ∀ (w : World) time, w.clock ≤ time → r w { w with clock := time })
    (hchange : ∀ (w : World) number f, r w (w.change number f))
    (hfork : ∀ (w : World) number, r w (w.fork number).1) : IsNatural r where
  refl := hrefl
  trans := htrans
  clock := hclock
  settleAll w := by
    have hsettle (w : World) (number : ℕ) (record : ProcessRecord) :
        r w (w.settle number record) := by
      unfold World.settle
      dsimp only
      split
      · exact hchange w number _
      · exact hchange w number _
    suffices hfold : ∀ (records : List (ℕ × ProcessRecord)) (v : World), r w v →
        r w (records.foldl (fun w e =>
          if e.2.pending.isEmpty || e.2.outcome.isSome then w else w.settle e.1 e.2) v) from
      hfold w.records w (hrefl w)
    intro records
    induction records with
    | nil => exact fun v hv => hv
    | cons record records ih =>
      intro v hv
      rw [List.foldl_cons]
      refine ih _ ?_
      split
      · exact hv
      · exact htrans hv (hsettle v _ _)
  finish w number _ := hchange w number _
  fork := hfork

/-- Time does not go back by itself. -/
theorem isNatural_clock : IsNatural fun w w' => w.clock ≤ w'.clock := by
  refine isNatural_of_change (fun w => Nat.le_refl _) (fun huv hvw => Nat.le_trans huv hvw)
    (fun w time h => h) (fun w number f => Nat.le_refl _) fun w number => ?_
  unfold World.fork
  split <;> exact Nat.le_refl _

/-- Files do not change by themselves. -/
theorem isNatural_files : IsNatural fun w w' => w'.files = w.files := by
  refine isNatural_of_change (fun w => rfl) (fun huv hvw => hvw.trans huv) (fun w time h => rfl)
    (fun w number f => rfl) fun w number => ?_
  unfold World.fork
  split <;> rfl

variable {w w' : World} {t : Thread} {ts ts' new waiting : List Thread} {limit : Option ℕ}

theorem advance_keeps (hr : IsNatural r) (ht : t.process.Keeps r)
    (h : advance w t = some (w', new)) : r w w' ∧ ∀ u ∈ new, u.process.Keeps r := by
  have hclock := hr.clock w (max w.clock t.time) (Nat.le_max_left _ _)
  obtain ⟨number, time, process⟩ := t
  cases ht with
  | ended status =>
    obtain ⟨rfl, rfl⟩ := Prod.mk.inj (Option.some.inj h)
    exact ⟨hr.trans hclock (hr.finish _ _ _), by simp⟩
  | pause hnext =>
    obtain ⟨rfl, rfl⟩ := Prod.mk.inj (Option.some.inj h)
    exact ⟨hclock, by simpa using hnext⟩
  | fork hchild hnext =>
    obtain ⟨rfl, rfl⟩ := Prod.mk.inj (Option.some.inj h)
    exact ⟨hr.trans hclock (hr.fork _ _), by simpa using ⟨hnext _, hchild⟩⟩
  | step hact hnext =>
    obtain ⟨⟨v, p⟩, hv, heq⟩ := Option.map_eq_some_iff.mp h
    obtain ⟨rfl, rfl⟩ := Prod.mk.inj heq
    exact ⟨hr.trans hclock (hact _ _ _ _ hv), by simpa using hnext _ _ _ _ hv⟩

theorem mem_insert {u : Thread} : u ∈ insert t ts ↔ u = t ∨ u ∈ ts := by
  induction ts with
  | nil => simp [insert]
  | cons v ts ih =>
    rw [insert]
    split
    · simp
    · simp only [List.mem_cons, ih]
      exact or_left_comm

/-- Threads stand in the order of their times. -/
def Sorted (ts : List Thread) : Prop := ts.Pairwise (·.time ≤ ·.time)

theorem Sorted.insert (h : Sorted ts) (t : Thread) : Sorted (insert t ts) := by
  induction ts with
  | nil => exact List.pairwise_singleton _ _
  | cons u ts ih =>
    obtain ⟨hu, hts⟩ := List.pairwise_cons.mp h
    rw [Pool.insert]
    split
    · next hlt =>
      refine List.pairwise_cons.mpr ⟨fun v hv => ?_, h⟩
      rcases List.mem_cons.mp hv with rfl | hv
      · exact Nat.le_of_lt hlt
      · exact Nat.le_trans (Nat.le_of_lt hlt) (hu v hv)
    · next hle =>
      refine List.pairwise_cons.mpr ⟨fun v hv => ?_, ih hts⟩
      rcases mem_insert.mp hv with rfl | hv
      · exact Nat.not_lt.mp hle
      · exact hu v hv

theorem mem_foldl_insert {u : Thread} :
    u ∈ new.foldl (fun ts t => insert t ts) ts ↔ u ∈ new ∨ u ∈ ts := by
  induction new generalizing ts with
  | nil => simp
  | cons t new ih =>
    rw [List.foldl_cons, ih, mem_insert, List.mem_cons, or_left_comm, or_assoc]

theorem Sorted.foldl_insert (h : Sorted ts) (new : List Thread) :
    Sorted (new.foldl (fun ts t => Pool.insert t ts) ts) := by
  induction new generalizing ts with
  | nil => exact h
  | cons t new ih => exact ih (h.insert t)

/-- A thread that cannot go on now. -/
def IsStuck (w : World) (t : Thread) : Prop := isStopped w t ∨ advance w t = none

/-- A thread would go on only when the time is over. -/
def IsLate (w : World) (limit : Option ℕ) (t : Thread) : Prop :=
  ∃ m ∈ limit, m ≤ max w.clock t.time

theorem any_iff_isLate : limit.any (· ≤ max w.clock t.time) ↔ IsLate w limit t := by
  simp [IsLate, Option.any_eq_true]

/-- What comes next of the first thread in some list. -/
theorem next?_cons_cases (w : World) (limit : Option ℕ) (waiting : List Thread) (t : Thread)
    (ts : List Thread) :
    (IsLate w limit t ∧ next? w limit waiting (t :: ts) = none) ∨
    (¬ IsLate w limit t ∧ IsStuck w t ∧
      next? w limit waiting (t :: ts) = next? w limit (t :: waiting) ts) ∨
    (¬ IsLate w limit t ∧ ¬ isStopped w t ∧ ∃ w' new, advance w t = some (w', new) ∧
      next? w limit waiting (t :: ts) =
        some (w', new.foldl (fun ts t => insert t ts) (waiting.reverse ++ ts))) := by
  rw [← any_iff_isLate]
  cases hlate : limit.any (· ≤ max w.clock t.time) with
  | true => exact .inl ⟨rfl, by rw [next?, if_pos hlate]⟩
  | false =>
    have hsoon : ¬ limit.any (· ≤ max w.clock t.time) = true := ne_true_of_eq_false hlate
    refine .inr ?_
    cases hstopped : isStopped w t with
    | true => exact .inl ⟨nofun, .inl hstopped, by rw [next?, if_neg hsoon, if_pos hstopped]⟩
    | false =>
      have hruns : ¬ isStopped w t = true := ne_true_of_eq_false hstopped
      cases hadvance : advance w t with
      | none =>
        refine .inl ⟨nofun, .inr hadvance, ?_⟩
        rw [next?, if_neg hsoon, if_neg hruns, hadvance]
      | some next =>
        refine .inr ⟨nofun, nofun, next.1, next.2, rfl, ?_⟩
        rw [next?, if_neg hsoon, if_neg hruns, hadvance]

/-- The first thread that can goes on, and all other ones stay. -/
theorem next?_eq_some (h : next? w limit waiting ts = some (w', ts')) :
    ∃ before t after new, ts = before ++ t :: after ∧ (∀ u ∈ before, IsStuck w u) ∧
      ¬ IsLate w limit t ∧ ¬ isStopped w t ∧ advance w t = some (w', new) ∧
      ts' = new.foldl (fun ts t => insert t ts) (waiting.reverse ++ before ++ after) := by
  induction ts generalizing waiting with
  | nil => contradiction
  | cons t ts ih =>
    rcases next?_cons_cases w limit waiting t ts with ⟨-, heq⟩ | ⟨-, hstuck, heq⟩ |
      ⟨hlate, hstopped, v, new, hadvance, heq⟩
    · rw [heq] at h
      contradiction
    · rw [heq] at h
      obtain ⟨before, u, after, new, rfl, hbefore, hrest⟩ := ih h
      refine ⟨t :: before, u, after, new, rfl, List.forall_mem_cons.mpr ⟨hstuck, hbefore⟩, ?_⟩
      simpa using hrest
    · rw [heq] at h
      obtain ⟨rfl, rfl⟩ := Prod.mk.inj (Option.some.inj h)
      exact ⟨[], t, ts, new, rfl, by simp, hlate, hstopped, hadvance, by simp⟩

/-- If none goes on, all of those that could do so in time are stuck. -/
theorem next?_eq_none (h : next? w limit waiting ts = none) (hsorted : Sorted ts) :
    ∀ t ∈ ts, IsStuck w t ∨ IsLate w limit t := by
  induction ts generalizing waiting with
  | nil => simp
  | cons t ts ih =>
    obtain ⟨ht, hts⟩ := List.pairwise_cons.mp hsorted
    rcases next?_cons_cases w limit waiting t ts with ⟨⟨m, hm, hlate⟩, -⟩ | ⟨-, hstuck, heq⟩ |
      ⟨-, -, v, new, -, heq⟩
    · refine fun u hu => .inr ⟨m, hm, Nat.le_trans hlate ?_⟩
      rcases List.mem_cons.mp hu with rfl | hu
      · exact Nat.le_refl _
      · have := ht u hu
        omega
    · exact List.forall_mem_cons.mpr ⟨.inl hstuck, ih (heq ▸ h) hts⟩
    · rw [heq] at h
      contradiction

section Run

variable {p p' : Pool} {limit n fuel : ℕ}

/-- What signals and ends have made of a pool before it goes on. -/
def settled (p : Pool) : Pool :=
  { p with
    world := p.world.settleAll
    threads := p.threads.filter (isLive p.world.settleAll) }

/-- The first process has ended and nobody writes to what is collected. -/
def IsOver (p : Pool) : Prop := p.outcome?.isSome ∧ p.isOpen = false

/-- The time of the steps to come. There is none once the first process has ended. -/
def limitOf (limit : ℕ) (p : Pool) : Option ℕ := if p.outcome?.isSome then none else some limit

/-- What comes next of a pool. -/
def onward? (limit : ℕ) (p : Pool) : Option (World × List Thread) :=
  next? p.settled.world (limitOf limit p.settled) [] p.settled.threads

/-- The pools that a pool comes to in some number of steps. -/
inductive Steps (limit : ℕ) : ℕ → Pool → Pool → Prop where
  | none (p : Pool) : Steps limit 0 p p
  | next {n : ℕ} {p p' : Pool} {world : World} {threads : List Thread}
      (hgoes : ¬ p.settled.IsOver) (honward : onward? limit p = some (world, threads))
      (hsteps : Steps limit n { p.settled with world, threads } p') : Steps limit (n + 1) p p'

/-- A pool goes no further. -/
def IsFinal (limit : ℕ) (p : Pool) : Prop := p.settled.IsOver ∨ onward? limit p = none

theorem run_succ (limit fuel : ℕ) (p : Pool) :
    run limit (fuel + 1) p =
      if p.settled.outcome?.isSome && !p.settled.isOpen then
        (p.settled.world, p.settled.outcome?)
      else
        match onward? limit p with
        | some (world, threads) => run limit fuel { p.settled with world, threads }
        | none => (p.settled.world, p.settled.outcome?) :=
  rfl

theorem run_of_isFinal (h : IsFinal limit p) (fuel : ℕ) :
    run limit (fuel + 1) p = (p.settled.world, p.settled.outcome?) := by
  rw [run_succ]
  rcases h with ⟨hsome, hopen⟩ | hnone
  · simp [hsome, hopen]
  · simp [hnone]

theorem run_of_onward? {world : World} {threads : List Thread} (hgoes : ¬ p.settled.IsOver)
    (honward : onward? limit p = some (world, threads)) (fuel : ℕ) :
    run limit (fuel + 1) p = run limit fuel { p.settled with world, threads } := by
  have hover : (p.settled.outcome?.isSome && !p.settled.isOpen) = false := by
    simpa [IsOver] using hgoes
  simp [run_succ, hover, honward]

/-- Where a run ends: after as many steps as it may take, or where it goes no further. -/
inductive Ends (limit fuel : ℕ) : ℕ → Pool → World → Prop where
  | exhausted (p : Pool) : Ends limit fuel fuel p p.world
  | final {n : ℕ} {p : Pool} (hn : n < fuel) (hfinal : IsFinal limit p) :
      Ends limit fuel n p p.settled.world

theorem Ends.succ {world : World} (h : Ends limit fuel n p world) :
    Ends limit (fuel + 1) (n + 1) p world := by
  cases h with
  | exhausted => exact .exhausted p
  | final hn hfinal => exact .final (Nat.succ_lt_succ hn) hfinal

/-- A run takes one step after the other, and tells what has become of the first process. -/
theorem run_ends (limit fuel : ℕ) (p : Pool) :
    ∃ n p', Steps limit n p p' ∧ Ends limit fuel n p' (run limit fuel p).1 ∧
      (run limit fuel p).2 = ((run limit fuel p).1.record? p.first).bind (·.outcome) := by
  induction fuel generalizing p with
  | zero => exact ⟨0, p, .none p, .exhausted p, rfl⟩
  | succ fuel ih =>
    by_cases hfinal : IsFinal limit p
    · rw [run_of_isFinal hfinal fuel]
      exact ⟨0, p, .none p, .final (Nat.succ_pos fuel) hfinal, rfl⟩
    · obtain ⟨hgoes, honward⟩ := not_or.mp hfinal
      obtain ⟨⟨world, threads⟩, honward⟩ := Option.ne_none_iff_exists'.mp honward
      rw [run_of_onward? hgoes honward]
      obtain ⟨n, p', hsteps, hends, houtcome⟩ := ih { p.settled with world, threads }
      exact ⟨n + 1, p', .next hgoes honward hsteps, hends.succ, houtcome⟩

theorem Steps.first_eq (h : Steps limit n p p') : p'.first = p.first := by
  induction h with
  | none => rfl
  | next _ _ _ ih => exact ih

/-- Once a run goes no further, more fuel makes no difference. -/
theorem Steps.run_eq (h : Steps limit n p p') (hfinal : IsFinal limit p') (hfuel : n < fuel) :
    run limit fuel p = (p'.settled.world, p'.settled.outcome?) := by
  induction h generalizing fuel with
  | none p =>
    obtain ⟨fuel, rfl⟩ := Nat.exists_eq_succ_of_ne_zero (Nat.ne_of_gt hfuel)
    exact run_of_isFinal hfinal fuel
  | next hgoes honward _ ih =>
    obtain ⟨fuel, rfl⟩ := Nat.exists_eq_succ_of_ne_zero (Nat.ne_of_gt (Nat.zero_lt_of_lt hfuel))
    rw [run_of_onward? hgoes honward]
    exact ih hfinal (Nat.lt_of_succ_lt_succ hfuel)

/-- The thread that goes on is the earliest one of those that can. -/
theorem exists_earliest (hsorted : Sorted p.threads) {world : World} {threads : List Thread}
    (h : onward? limit p = some (world, threads)) :
    ∃ t ∈ p.settled.threads, ∃ new, advance p.settled.world t = some (world, new) ∧
      ¬ IsLate p.settled.world (limitOf limit p.settled) t ∧
      ∀ u ∈ p.settled.threads, u.time < t.time → IsStuck p.settled.world u := by
  have hsettled : Sorted p.settled.threads := hsorted.sublist List.filter_sublist
  obtain ⟨before, t, after, new, hsplit, hbefore, hlate, -, hadvance, -⟩ := next?_eq_some h
  refine ⟨t, by simp [hsplit], new, hadvance, hlate, fun u hu hlt => ?_⟩
  rw [hsplit] at hu hsettled
  rcases List.mem_append.mp hu with hu | hu
  · exact hbefore u hu
  · have hafter := (List.pairwise_cons.mp (List.pairwise_append.mp hsettled).2.1).1
    rcases List.mem_cons.mp hu with rfl | hu
    · exact absurd hlt (Nat.lt_irrefl _)
    · exact absurd hlt (Nat.not_lt.mpr (hafter u hu))

/-- A run that goes no further without an outcome is one whose processes all wait, or have no time
left. -/
theorem IsFinal.stuck (h : IsFinal limit p) (hsorted : Sorted p.threads)
    (hnone : p.settled.outcome? = none) :
    ∀ t ∈ p.settled.threads,
      IsStuck p.settled.world t ∨ IsLate p.settled.world (some limit) t := by
  rcases h with ⟨hsome, -⟩ | h
  · simp [hnone] at hsome
  · have hlimit : limitOf limit p.settled = some limit := by simp [limitOf, hnone]
    rw [onward?, hlimit] at h
    exact next?_eq_none h (hsorted.sublist List.filter_sublist)

theorem onward?_sorted (hsorted : Sorted p.threads) {world : World} {threads : List Thread}
    (h : onward? limit p = some (world, threads)) : Sorted threads := by
  have hsettled : Sorted p.settled.threads := hsorted.sublist List.filter_sublist
  obtain ⟨before, t, after, new, hsplit, -, -, -, -, rfl⟩ := next?_eq_some h
  rw [hsplit] at hsettled
  refine Sorted.foldl_insert (hsettled.sublist ?_) new
  simp

/-- The threads stay in their order, so that it is always the earliest one that goes on. -/
theorem Steps.sorted (h : Steps limit n p p') (hsorted : Sorted p.threads) :
    Sorted p'.threads := by
  induction h with
  | none => exact hsorted
  | next _ honward _ ih => exact ih (onward?_sorted hsorted honward)

/-- What a step keeps. -/
theorem onward?_keeps (hr : IsNatural r) (hthreads : ∀ t ∈ p.threads, t.process.Keeps r)
    {world : World} {threads : List Thread} (h : onward? limit p = some (world, threads)) :
    r p.world world ∧ ∀ t ∈ threads, t.process.Keeps r := by
  have hlive : ∀ t ∈ p.settled.threads, t.process.Keeps r := fun t ht =>
    hthreads t (List.mem_filter.mp ht).1
  obtain ⟨before, t, after, new, hsplit, -, -, -, hadvance, rfl⟩ := next?_eq_some h
  rw [hsplit] at hlive
  obtain ⟨hworld, hnew⟩ := advance_keeps hr (hlive t (by simp)) hadvance
  refine ⟨hr.trans (hr.settleAll p.world) hworld, fun u hu => ?_⟩
  rcases mem_foldl_insert.mp hu with hu | hu
  · exact hnew u hu
  · refine hlive u ?_
    simp only [List.reverse_nil, List.nil_append, List.mem_append] at hu
    simp only [List.mem_append, List.mem_cons]
    exact hu.imp_right .inr

theorem Steps.keeps (hr : IsNatural r) (h : Steps limit n p p')
    (hthreads : ∀ t ∈ p.threads, t.process.Keeps r) : r p.world p'.world := by
  induction h with
  | none p => exact hr.refl p.world
  | next _ honward _ ih =>
    obtain ⟨hworld, hkeeps⟩ := onward?_keeps hr hthreads honward
    exact hr.trans hworld (ih hkeeps)

/-- What all steps of all processes keep to, a run keeps to. -/
theorem run_keeps (hr : IsNatural r) (hthreads : ∀ t ∈ p.threads, t.process.Keeps r)
    (limit fuel : ℕ) : r p.world (run limit fuel p).1 := by
  obtain ⟨n, p', hsteps, hends, -⟩ := run_ends limit fuel p
  generalize (run limit fuel p).1 = world at hends ⊢
  cases hends with
  | exhausted => exact hsteps.keeps hr hthreads
  | final => exact hr.trans (hsteps.keeps hr hthreads) (hr.settleAll p'.world)

/-- If a run goes no further and its first process has not ended, then all processes wait, or have
no time left. -/
theorem stuck_of_run (hsorted : Sorted p.threads) (h : Steps limit n p p')
    (hfinal : IsFinal limit p')
    (hnone : (p'.settled.world.record? p.first).bind (·.outcome) = none) :
    ∀ t ∈ p'.settled.threads,
      IsStuck p'.settled.world t ∨ IsLate p'.settled.world (some limit) t := by
  rw [← h.first_eq] at hnone
  exact hfinal.stuck (h.sorted hsorted) hnone

end Run

end Pool

namespace World

variable {w w' : World} {number descriptor limit : ℕ} {lines : Bool} {bytes : List UInt8}

/-- Reading changes neither files nor the clock. -/
theorem read?_unchanged {answer : Except FileError (List UInt8)}
    (h : w.read? number descriptor limit lines = some (w', answer)) :
    w'.clock = w.clock ∧ w'.files = w.files := by
  unfold read? at h
  dsimp only at h
  repeat' split at h
  all_goals
    first
    | contradiction
    | obtain ⟨rfl, -⟩ := Prod.mk.inj (Option.some.inj h)
      exact ⟨rfl, rfl⟩

theorem attempt?_clock {answer : Except FileError (List UInt8)}
    (h : w.attempt? number descriptor bytes = some (w', answer)) : w'.clock = w.clock := by
  unfold attempt? at h
  dsimp only at h
  repeat' split at h
  all_goals
    first
    | contradiction
    | obtain ⟨rfl, -⟩ := Prod.mk.inj (Option.some.inj h)
      rfl

theorem write?_clock {answer : Except FileError (List UInt8)}
    (h : w.write? number descriptor bytes = some (w', answer)) : w'.clock = w.clock := by
  unfold write? at h
  split at h
  · next v e hattempt =>
    obtain ⟨rfl, -⟩ := Prod.mk.inj (Option.some.inj h)
    refine Eq.trans ?_ (attempt?_clock hattempt)
    split <;> rfl
  · exact attempt?_clock h

end World

namespace Program

/-- Time does not go back while a program runs. -/
abbrev IsTimely (x : Program α) : Prop := x.Keeps fun w w' => w.clock ≤ w'.clock

theorem charged_clock (a : World × Except FileError (List UInt8)) :
    a.1.clock ≤ (charged a).1.clock := by
  unfold charged
  split
  · exact Nat.le_add_right _ _
  · exact Nat.le_refl _

theorem chargedFor_clock (bytes : List UInt8) (a : World × Except FileError (List UInt8)) :
    a.1.clock ≤ (chargedFor bytes a).1.clock := by
  unfold chargedFor
  split
  · exact Nat.le_add_right _ _
  · exact Nat.le_refl _

theorem charged_files (a : World × Except FileError (List UInt8)) :
    (charged a).1.files = a.1.files := by
  unfold charged
  split <;> rfl

theorem isTimely_read (descriptor limit : ℕ) : IsTimely (read descriptor limit) :=
  keeps_await fun number w w' answer h => by
    obtain ⟨a, hread, heq⟩ := Option.map_eq_some_iff.mp h
    have hclock := charged_clock a
    rw [heq, (World.read?_unchanged hread).1] at hclock
    exact hclock

/-- No file changes while a program runs. -/
abbrev KeepsFiles (x : Program α) : Prop := x.Keeps fun w w' => w'.files = w.files

theorem keepsFiles_read (descriptor limit : ℕ) : KeepsFiles (read descriptor limit) :=
  keeps_await fun number w w' answer h => by
    obtain ⟨a, hread, heq⟩ := Option.map_eq_some_iff.mp h
    have hfiles := charged_files a
    rw [heq, (World.read?_unchanged hread).2] at hfiles
    exact hfiles

/-- Reading to the end keeps to what reading does. -/
theorem keeps_readFrom {descriptor : ℕ} (hread : ∀ limit, (read descriptor limit).Keeps r)
    (fuel : ℕ) (pieces : List (List UInt8)) : (readFrom descriptor fuel pieces).Keeps r := by
  induction fuel generalizing pieces with
  | zero => exact keeps_pure _
  | succ fuel ih =>
    refine (hread _).bind fun answer => ?_
    split
    · exact keeps_pure _
    · exact keeps_pure _
    · exact ih _

theorem isTimely_readAll (descriptor : ℕ) : IsTimely (readAll descriptor) :=
  keeps_readFrom (isTimely_read descriptor) fuel []

theorem keepsFiles_readAll (descriptor : ℕ) : KeepsFiles (readAll descriptor) :=
  keeps_readFrom (keepsFiles_read descriptor) fuel []

theorem isTimely_writeWithin (pieces descriptor : ℕ) (bytes : List UInt8) :
    IsTimely (writeWithin pieces descriptor bytes) := by
  induction pieces generalizing bytes with
  | zero => exact keeps_pure _
  | succ pieces ih =>
    cases bytes with
    | nil => exact keeps_pure _
    | cons b bytes =>
      refine Keeps.bind (keeps_await fun number w w' answer h => ?_) fun answer => ?_
      · obtain ⟨a, hwrite, heq⟩ := Option.map_eq_some_iff.mp h
        have hclock := chargedFor_clock (b :: bytes) a
        rw [heq, World.write?_clock hwrite] at hclock
        exact hclock
      · cases answer with
        | ok rest => exact ih rest
        | error e => exact keeps_pure _

theorem isTimely_write (descriptor : ℕ) (bytes : List UInt8) : IsTimely (write descriptor bytes) :=
  isTimely_writeWithin _ descriptor bytes

end Program

end ReleasePreview
