import ReleasePreview.Proofs.Package.Version
import ReleasePreview.Source.Baseline

/-!
Sources are asked one after the other until one has an answer, and the calls are exactly those up
to it. A failure counts as no answer. A baseline is made from three such passes.
-/
namespace ReleasePreview

/-- What is asked of sources, and what can come of asking one. -/
structure Question (α : Type) where
  call : Source → Call
  Answers : Source → α → Prop
  Silent : Source → Prop
  Crashes : Source → Prop

namespace Inquiry

variable {α β : Type}

theorem pure_eq (a : α) : (pure a : Inquiry α) = ⟨[], .ok a⟩ := rfl

/-- The calls of a second inquiry come behind those of the first. -/
theorem ok_bind (cs : List Call) (a : α) (f : α → Inquiry β) :
    ((⟨cs, .ok a⟩ : Inquiry α) >>= f) = ⟨cs ++ (f a).calls, (f a).result⟩ := rfl

theorem error_bind (cs : List Call) (c : Call) (f : α → Inquiry β) :
    ((⟨cs, .error c⟩ : Inquiry α) >>= f) = ⟨cs, .error c⟩ := rfl

theorem first_cons_of_some {ask : Source → Inquiry (Option α)} {s : Source} {cs : List Call} {a : α}
    (h : ask s = ⟨cs, .ok (some a)⟩) (ss : List Source) :
    first ask (s :: ss) = ⟨cs, .ok (some a)⟩ := by
  simp only [first, h, ok_bind, pure_eq, List.append_nil]

theorem first_cons_of_none {ask : Source → Inquiry (Option α)} {s : Source} {cs : List Call}
    (h : ask s = ⟨cs, .ok none⟩) (ss : List Source) :
    first ask (s :: ss) = ⟨cs ++ (first ask ss).calls, (first ask ss).result⟩ := by
  rw [first, h, ok_bind]

theorem first_cons_of_error {ask : Source → Inquiry (Option α)} {s : Source} {cs : List Call}
    {c : Call} (h : ask s = ⟨cs, .error c⟩) (ss : List Source) :
    first ask (s :: ss) = ⟨cs, .error c⟩ := by
  rw [first, h, error_bind]

end Inquiry

namespace Question

variable {α : Type}

/-- Which versions are there? The answer is the latest of them. -/
def versions (w : Surroundings) (p : PackageName) : Question Version where
  call s := ⟨s.id, .versions, p⟩
  Answers s v := ∃ vs, s.versions w p = .answered vs ∧ v.IsLatest vs
  Silent s := s.versions w p = .answered [] ∨ ∃ e, s.versions w p = .failed e
  Crashes s := s.versions w p = .crashed

/-- A question for one thing, which a source has or has not. -/
def lookup (query : Query) (p : PackageName) (outcome : Source → Outcome (Option α)) :
    Question α where
  call s := ⟨s.id, query, p⟩
  Answers s a := outcome s = .answered (some a)
  Silent s := outcome s = .answered none ∨ ∃ e, outcome s = .failed e
  Crashes s := outcome s = .crashed

def docs (w : Surroundings) (p : PackageName) (v : Version) : Question Docs :=
  lookup (.docs v) p fun s => s.docs w p v

def readme (w : Surroundings) (p : PackageName) (v : Version) : Question String :=
  lookup (.readme v) p fun s => s.readme w p v

/-- A pass over sources in their order: it ends at the first answer, or behind the last source. A
crash ends it as well. -/
inductive Pass (q : Question α) : List Source → Inquiry (Option α) → Prop
  | answered {before after : List Source} {s : Source} {a : α} (hbefore : ∀ b ∈ before, q.Silent b)
      (ha : q.Answers s a) :
      Pass q (before ++ s :: after) ⟨(before ++ [s]).map q.call, .ok (some a)⟩
  | unanswered {ss : List Source} (hss : ∀ s ∈ ss, q.Silent s) :
      Pass q ss ⟨ss.map q.call, .ok none⟩
  | crashed {before after : List Source} {s : Source} (hbefore : ∀ b ∈ before, q.Silent b)
      (hs : q.Crashes s) :
      Pass q (before ++ s :: after) ⟨(before ++ [s]).map q.call, .error (q.call s)⟩

variable {q : Question α}

/-- A source that says nothing is called, and the pass goes on. -/
theorem Pass.cons {s : Source} {ss : List Source} {i : Inquiry (Option α)} (hs : q.Silent s)
    (h : q.Pass ss i) : q.Pass (s :: ss) ⟨q.call s :: i.calls, i.result⟩ := by
  cases h with
  | answered hbefore ha => exact .answered (List.forall_mem_cons.mpr ⟨hs, hbefore⟩) ha
  | unanswered hss => exact .unanswered (List.forall_mem_cons.mpr ⟨hs, hss⟩)
  | crashed hbefore hc => exact .crashed (List.forall_mem_cons.mpr ⟨hs, hbefore⟩) hc

/-- A pass that breaks off does so at the call that crashed. -/
theorem Pass.exists_crash {ss : List Source} {cs : List Call} {c : Call}
    (h : q.Pass ss ⟨cs, .error c⟩) : ∃ s ∈ ss, c = q.call s ∧ q.Crashes s := by
  cases h with
  | crashed _ hs => exact ⟨_, by simp, rfl, hs⟩

/-- What an outcome says about its source. -/
def Describes (q : Question α) (s : Source) : Outcome (Option α) → Prop
  | .answered (some a) => q.Answers s a
  | .answered none => q.Silent s
  | .failed _ => q.Silent s
  | .crashed => q.Crashes s

theorem pass_first {outcome : Source → Outcome (Option α)} (h : ∀ s, q.Describes s (outcome s))
    (ss : List Source) : q.Pass ss (.first (fun s => .ask (q.call s) (outcome s)) ss) := by
  induction ss with
  | nil => exact .unanswered (List.forall_mem_nil _)
  | cons s ss ih =>
    have hcase := h s
    cases hs : outcome s with
    | answered answer =>
      rw [hs] at hcase
      cases answer with
      | some a =>
        rw [Inquiry.first_cons_of_some (by rw [hs]; rfl)]
        exact .answered (List.forall_mem_nil _) hcase
      | none =>
        rw [Inquiry.first_cons_of_none (by rw [hs]; rfl)]
        exact ih.cons hcase
    | failed e =>
      rw [hs] at hcase
      rw [Inquiry.first_cons_of_none (by rw [hs]; rfl)]
      exact ih.cons hcase
    | crashed =>
      rw [hs] at hcase
      rw [Inquiry.first_cons_of_error (by rw [hs]; rfl)]
      exact .crashed (List.forall_mem_nil _) hcase

theorem pass_lookup (query : Query) (p : PackageName) (outcome : Source → Outcome (Option α))
    (ss : List Source) : (lookup query p outcome).Pass ss
      (.first (fun s => .ask ⟨s.id, query, p⟩ (outcome s)) ss) := by
  refine pass_first (fun s => ?_) ss
  cases hs : outcome s with
  | answered answer =>
    cases answer with
    | some a => exact hs
    | none => exact .inl hs
  | failed e => exact .inr ⟨e, hs⟩
  | crashed => exact hs

end Question

/-- A call about a package that a source crashes at. -/
inductive Source.CrashesAt (s : Source) (w : Surroundings) (p : PackageName) : Call → Prop
  | versions (h : s.versions w p = .crashed) : CrashesAt s w p ⟨s.id, .versions, p⟩
  | docs {v : Version} (h : s.docs w p v = .crashed) : CrashesAt s w p ⟨s.id, .docs v, p⟩
  | readme {v : Version} (h : s.readme w p v = .crashed) : CrashesAt s w p ⟨s.id, .readme v, p⟩

namespace Registry

variable (r : Registry) (w : Surroundings) (p : PackageName)

/-- How a baseline comes about: nothing more is asked about a package without a version, and else
the documentation and the readme of the latest version are asked for, each from the first source on.
-/
inductive Resolves : Inquiry (Option Baseline) → Prop
  | unpublished {cs : List Call} (hv : r.latestVersion w p = ⟨cs, .ok none⟩) :
      Resolves ⟨cs, .ok none⟩
  | published {cs ds rs : List Call} {version : Version} {docs : Option Docs}
      {readme : Option String} (hv : r.latestVersion w p = ⟨cs, .ok (some version)⟩)
      (hd : r.docs w p version = ⟨ds, .ok docs⟩) (hr : r.readme w p version = ⟨rs, .ok readme⟩) :
      Resolves ⟨cs ++ (ds ++ rs), .ok (some ⟨version, docs, readme⟩)⟩
  | versionsCrash {cs : List Call} {c : Call} (hv : r.latestVersion w p = ⟨cs, .error c⟩) :
      Resolves ⟨cs, .error c⟩
  | docsCrash {cs ds : List Call} {c : Call} {version : Version}
      (hv : r.latestVersion w p = ⟨cs, .ok (some version)⟩)
      (hd : r.docs w p version = ⟨ds, .error c⟩) : Resolves ⟨cs ++ ds, .error c⟩
  | readmeCrash {cs ds rs : List Call} {c : Call} {version : Version} {docs : Option Docs}
      (hv : r.latestVersion w p = ⟨cs, .ok (some version)⟩)
      (hd : r.docs w p version = ⟨ds, .ok docs⟩) (hr : r.readme w p version = ⟨rs, .error c⟩) :
      Resolves ⟨cs ++ (ds ++ rs), .error c⟩

theorem pass_latestVersion : (Question.versions w p).Pass r.sources (r.latestVersion w p) := by
  refine Question.pass_first (fun s => ?_) r.sources
  cases hs : s.versions w p with
  | answered vs =>
    cases hv : Version.latest? vs with
    | some v =>
      simp only [Outcome.map, hv]
      exact ⟨vs, hs, Version.latest?_eq_some.mp hv⟩
    | none =>
      simp only [Outcome.map, hv]
      exact .inl (by rw [hs, Version.latest?_eq_none.mp hv])
  | failed e => exact .inr ⟨e, hs⟩
  | crashed => exact hs

theorem resolves_baseline : r.Resolves w p (r.baseline w p) := by
  rw [baseline]
  rcases hv : r.latestVersion w p with ⟨cs, result⟩
  cases result with
  | error c => exact .versionsCrash hv
  | ok version? =>
    rw [Inquiry.ok_bind]
    cases version? with
    | none =>
      simp only [Inquiry.pure_eq, List.append_nil]
      exact .unpublished hv
    | some version =>
      dsimp only
      rcases hd : r.docs w p version with ⟨ds, result⟩
      cases result with
      | error c => exact .docsCrash hv hd
      | ok docs =>
        rw [Inquiry.ok_bind]
        rcases hr : r.readme w p version with ⟨rs, result⟩
        cases result with
        | error c => exact .readmeCrash hv hd hr
        | ok readme =>
          simp only [Inquiry.ok_bind, Inquiry.pure_eq, List.append_nil]
          exact .published hv hd hr

variable {r w p}

theorem Resolves.result_eq_none {i : Inquiry (Option Baseline)} (h : r.Resolves w p i) :
    i.result = .ok none ↔ (r.latestVersion w p).result = .ok none := by
  cases h with
  | unpublished hv => simp [hv]
  | published hv _ _ => simp [hv]
  | versionsCrash hv => simp [hv]
  | docsCrash hv _ => simp [hv]
  | readmeCrash hv _ _ => simp [hv]

/-- Only a crash keeps a baseline from being resolved. -/
theorem Resolves.exists_crash {i : Inquiry (Option Baseline)} {c : Call} (h : r.Resolves w p i)
    (hc : i.result = .error c) : ∃ s ∈ r.sources, s.CrashesAt w p c := by
  cases h with
  | unpublished _ => contradiction
  | published _ _ _ => contradiction
  | versionsCrash hv =>
    obtain rfl := Except.error.inj hc
    obtain ⟨s, hs, rfl, hcrash⟩ := (hv ▸ r.pass_latestVersion w p).exists_crash
    exact ⟨s, hs, .versions hcrash⟩
  | @docsCrash _ _ _ version _ hd =>
    obtain rfl := Except.error.inj hc
    have hpass : (Question.docs w p version).Pass r.sources (r.docs w p version) :=
      Question.pass_lookup _ _ _ _
    obtain ⟨s, hs, rfl, hcrash⟩ := (hd ▸ hpass).exists_crash
    exact ⟨s, hs, .docs hcrash⟩
  | @readmeCrash _ _ _ _ version _ _ _ hr =>
    obtain rfl := Except.error.inj hc
    have hpass : (Question.readme w p version).Pass r.sources (r.readme w p version) :=
      Question.pass_lookup _ _ _ _
    obtain ⟨s, hs, rfl, hcrash⟩ := (hr ▸ hpass).exists_crash
    exact ⟨s, hs, .readme hcrash⟩

end Registry

/-- An outcome with nothing for an answer in place of a failure. -/
def Outcome.muted {α : Type} (nothing : α) : Outcome α → Outcome α
  | answered a => answered a
  | failed _ => answered nothing
  | crashed => crashed

/-- A source that has nothing to say where another one fails. -/
def Source.muted (s : Source) : Source where
  id := s.id
  label := s.label
  versions w p := (s.versions w p).muted []
  docs w p v := (s.docs w p v).muted none
  readme w p v := (s.readme w p v).muted none

def Registry.muted (r : Registry) : Registry := ⟨r.sources.map Source.muted⟩

namespace Inquiry

variable {α : Type}

theorem ask_muted (call : Call) (o : Outcome (Option α)) :
    ask call (o.muted none) = ask call o := by
  cases o <;> rfl

theorem ask_latest_muted (call : Call) (o : Outcome (List Version)) :
    ask call ((o.muted []).map Version.latest?) = ask call (o.map Version.latest?) := by
  cases o <;> rfl

theorem first_map (ask : Source → Inquiry (Option α)) (f : Source → Source) (ss : List Source) :
    first ask (ss.map f) = first (fun s => ask (f s)) ss := by
  induction ss with
  | nil => rfl
  | cons s ss ih => rw [List.map_cons, first, first, ih]

end Inquiry

namespace Registry

variable (r : Registry) (w : Surroundings) (p : PackageName)

theorem latestVersion_muted : r.muted.latestVersion w p = r.latestVersion w p := by
  simp only [latestVersion, muted, Inquiry.first_map, Source.muted, Inquiry.ask_latest_muted]

theorem docs_muted (v : Version) : r.muted.docs w p v = r.docs w p v := by
  simp only [docs, muted, Inquiry.first_map, Source.muted, Inquiry.ask_muted]

theorem readme_muted (v : Version) : r.muted.readme w p v = r.readme w p v := by
  simp only [readme, muted, Inquiry.first_map, Source.muted, Inquiry.ask_muted]

theorem baseline_muted : r.muted.baseline w p = r.baseline w p := by
  simp only [baseline, latestVersion_muted, docs_muted, readme_muted]

/-- Each lookup asks the sources in their order up to the first answer and no further, a baseline is
the latest version with what separate passes find of it, and a failure is no more than silence. -/
theorem baseline_fallback :
    (Question.versions w p).Pass r.sources (r.latestVersion w p) ∧
    (∀ v, (Question.docs w p v).Pass r.sources (r.docs w p v)) ∧
    (∀ v, (Question.readme w p v).Pass r.sources (r.readme w p v)) ∧
    r.Resolves w p (r.baseline w p) ∧
    ((r.baseline w p).result = .ok none ↔ (r.latestVersion w p).result = .ok none) ∧
    (∀ c, (r.baseline w p).result = .error c → ∃ s ∈ r.sources, s.CrashesAt w p c) ∧
    r.muted.latestVersion w p = r.latestVersion w p ∧
    (∀ v, r.muted.docs w p v = r.docs w p v ∧ r.muted.readme w p v = r.readme w p v) ∧
    r.muted.baseline w p = r.baseline w p := by
  refine ⟨r.pass_latestVersion w p, fun v => Question.pass_lookup _ _ _ _,
    fun v => Question.pass_lookup _ _ _ _, r.resolves_baseline w p,
    (r.resolves_baseline w p).result_eq_none, fun c hc => (r.resolves_baseline w p).exists_crash hc,
    r.latestVersion_muted w p, fun v => ⟨r.docs_muted w p v, r.readme_muted w p v⟩,
    r.baseline_muted w p⟩

end Registry

end ReleasePreview
