import Mathlib.Data.List.Basic
import ReleasePreview.Files.Access
import ReleasePreview.Proofs.Files.Path

/-!
Where names lead in a tree of files: the first name, the last one, and what it means for a way that
a node is taken away. What is read at its end is the file that is found there.
-/
namespace ReleasePreview

namespace FileTree

variable {t t' : FileTree} {p q x : Place}

section Nodes

/-- Entries of other places may be left out. -/
theorem lookup_filter_of_keeps {f : Place × FileNode → Bool} (hf : ∀ node, f (p, node) = true)
    (es : List (Place × FileNode)) : (es.filter f).lookup p = es.lookup p := by
  induction es with
  | nil => rfl
  | cons e es ih =>
    obtain ⟨q, node⟩ := e
    by_cases hq : q = p
    · subst hq
      rw [List.filter_cons_of_pos (hf node), List.lookup_cons_self, List.lookup_cons_self]
    · have hne : (p == q) = false := beq_eq_false_iff_ne.mpr (Ne.symm hq)
      rw [List.filter_cons]
      split
      · rw [List.lookup_cons, List.lookup_cons, ih]
      · rw [ih, List.lookup_cons, hne]

theorem node?_erase_ne (h : q ≠ p) : (t.erase p).node? q = t.node? q := by
  unfold node? erase
  rw [lookup_filter_of_keeps fun _ => decide_eq_true h]

theorem node?_erase_self (h : p ≠ []) : (t.erase p).node? p = none := by
  unfold node? erase
  rw [if_neg (by simpa using h), List.lookup_eq_none_iff]
  intro e he
  rw [bne_iff_ne]
  exact Ne.symm (by simpa using (List.mem_filter.mp he).2)

theorem erase_of_absent (h : t.node? p = none) : t.erase p = t := by
  have hp : p ≠ [] := by
    rintro rfl
    cases h
  have habsent : ∀ e ∈ t.nodes, e.1 ≠ p := by
    unfold node? at h
    rw [if_neg (by simpa using hp), List.lookup_eq_none_iff] at h
    exact fun e he => Ne.symm (bne_iff_ne.mp (h e he))
  unfold erase
  rw [List.filter_eq_self.mpr fun e he => by simpa using habsent e he]

/-- There is a file or nothing, so no way leads on from there. -/
def AtMostFile (t : FileTree) (p : Place) : Prop :=
  ∀ node, t.node? p = some node → ∃ content mode, node = .file content mode

end Nodes

section Reads

variable {directory : Place} {path : String} {content : List UInt8} {mode : FileMode}

theorem read_of_find (h : t.find directory path = .ok (.file content mode)) :
    t.read directory path = if mode.readable then .ok content else .error .permissionDenied := by
  rw [read, h]
  rfl

theorem readText_of_refused (h : t.find directory path = .ok (.file content mode))
    (hmode : mode.readable = false) :
    t.readText directory path = .error .permissionDenied := by
  rw [readText, read_of_find h, hmode]
  rfl

theorem readText_of_find (h : t.find directory path = .ok (.file content mode))
    (hmode : mode.readable) :
    t.readText directory path = (Text.Utf8.decode? content).elim (.error .notText) .ok := by
  have hread : t.read directory path = .ok content := by
    rw [read_of_find h, if_pos hmode]
  rw [readText, hread]
  simp only [bind, Except.bind]
  cases Text.Utf8.decode? content <;> rfl

end Reads

section Walk

variable {links : Nat} {name : String} {names rest : List String}

@[simp] theorem walk_nil (t : FileTree) (follow : Bool) (links : Nat) (p : Place) :
    t.walk follow links p [] = .ok p := by
  cases links <;> rfl

/-- The first name decides how a way goes on. -/
theorem walk_cons (t : FileTree) (follow : Bool) (links : Nat) (p : Place) (name : String)
    (rest : List String) : t.walk follow links p (name :: rest) =
      match t.node? p with
      | none => .error .notFound
      | some (.file _ _) => .error .notDirectory
      | some (.link _) => .error .notDirectory
      | some .directory =>
        if maxName < name.utf8ByteSize then .error .nameTooLong
        else
          match t.node? (enter p name) with
          | some (.link target) =>
            if rest.isEmpty && !follow then .ok (enter p name)
            else
              match links with
              | 0 => .error .tooManyLinks
              | links + 1 => t.walk follow links (if Path.isAbsolute target then [] else p)
                  (Path.names target ++ rest)
          | _ => t.walk follow links (enter p name) rest := by
  conv_lhs => unfold walk
  unfold stride
  cases t.node? p with
  | none => rfl
  | some node =>
    cases node with
    | file | link => rfl
    | directory =>
      by_cases hlong : maxName < name.utf8ByteSize
      · simp only [if_pos hlong]
      · simp only [if_neg hlong]
        cases t.node? (enter p name) with
        | none => conv_rhs => unfold walk
        | some next =>
          cases next with
          | file | directory => conv_rhs => unfold walk
          | link target =>
            by_cases hlast : rest.isEmpty && !follow
            · simp only [if_pos hlast]
            · simp only [if_neg hlast]
              cases links <;> rfl

/-- How a way that leads to a place goes on from its first name. -/
inductive Goes (t : FileTree) (follow : Bool) (links : Nat) (p : Place) (name : String)
    (rest : List String) (q : Place) : Prop
  | into (hnext : ∀ target, t.node? (enter p name) ≠ some (.link target))
      (h : t.walk follow links (enter p name) rest = .ok q)
  | last (target : String) (hlink : t.node? (enter p name) = some (.link target))
      (hrest : rest = []) (hfollow : follow = false) (hq : q = enter p name)
  | through (target : String) (fewer : Nat) (hlink : t.node? (enter p name) = some (.link target))
      (hon : ¬ (rest.isEmpty && !follow)) (hlinks : links = fewer + 1)
      (h : t.walk follow fewer (if Path.isAbsolute target then [] else p)
        (Path.names target ++ rest) = .ok q)

theorem walk_cons_eq_ok {follow : Bool} : t.walk follow links p (name :: rest) = .ok q ↔
    t.node? p = some .directory ∧ ¬ maxName < name.utf8ByteSize ∧
      t.Goes follow links p name rest q := by
  rw [walk_cons]
  constructor
  · intro h
    cases hp : t.node? p with
    | none =>
      rw [hp] at h
      contradiction
    | some node =>
      rw [hp] at h
      cases node with
      | file | link => contradiction
      | directory =>
        by_cases hlong : maxName < name.utf8ByteSize
        · simp only [if_pos hlong] at h
          contradiction
        · simp only [if_neg hlong] at h
          refine ⟨rfl, hlong, ?_⟩
          split at h
          · next target hlink =>
            split at h
            · next hlast =>
              rw [Bool.and_eq_true, List.isEmpty_iff, Bool.not_eq_true'] at hlast
              exact .last target hlink hlast.1 hlast.2 (Except.ok.inj h).symm
            · next hon =>
              cases links with
              | zero => contradiction
              | succ fewer => exact .through target fewer hlink hon rfl h
          · next hnext => exact .into hnext h
  · rintro ⟨hp, hlong, hgoes⟩
    simp only [hp, if_neg hlong]
    cases hgoes with
    | into hnext h =>
      split
      · next target hlink => exact absurd hlink (hnext target)
      · exact h
    | last target hlink hrest hfollow hq =>
      simp [hlink, hrest, hfollow, hq]
    | through target fewer hlink hon hlinks h =>
      subst hlinks
      simp only [hlink, if_neg hon, h]

/-- Names are gone along one by one, and those of a link with one link less. -/
theorem walk_induction {motive : Nat → Place → List String → Prop}
    (nil : ∀ links p, motive links p [])
    (cons : ∀ links p name rest, motive links (enter p name) rest →
      (∀ fewer start names, links = fewer + 1 → motive fewer start (names ++ rest)) →
      motive links p (name :: rest)) (links : Nat) (p : Place) (names : List String) :
    motive links p names := by
  induction links generalizing p names with
  | zero =>
    induction names generalizing p with
    | nil => exact nil 0 p
    | cons name rest ih => exact cons 0 p name rest (ih _) fun _ _ _ h => absurd h (by omega)
  | succ links ihlinks =>
    induction names generalizing p with
    | nil => exact nil _ p
    | cons name rest ih =>
      refine cons _ p name rest (ih _) fun fewer start names h => ?_
      obtain rfl : links = fewer := by omega
      exact ihlinks start (names ++ rest)

/-- In a tree that differs at one place only, where no way leads on in either of the two, every way
leads to where it led. -/
theorem walk_of_agree (hagree : ∀ r, r ≠ x → t.node? r = t'.node? r) (ht : t.AtMostFile x)
    (ht' : t'.AtMostFile x) {follow : Bool} (h : t.walk follow links p names = .ok q) :
    t'.walk follow links p names = .ok q := by
  have hnot : ∀ {r node}, t.node? r = some node →
      (∀ content mode, node ≠ .file content mode) → t'.node? r = some node := by
    intro r node hr hnode
    rw [← hagree r, hr]
    rintro rfl
    obtain ⟨content, mode, hfile⟩ := ht node hr
    exact hnode content mode hfile
  induction links, p, names using walk_induction with
  | nil => rwa [walk_nil] at h ⊢
  | cons links p name rest ihnext ihlink =>
    obtain ⟨hp, hname, hgoes⟩ := walk_cons_eq_ok.mp h
    refine walk_cons_eq_ok.mpr ⟨hnot hp (by simp), hname, ?_⟩
    cases hgoes with
    | into hnext h =>
      refine .into (fun target hlink => ?_) (ihnext h)
      by_cases hx : enter p name = x
      · obtain ⟨_, _, hfile⟩ := ht' _ (hx ▸ hlink)
        contradiction
      · exact hnext target ((hagree _ hx).trans hlink)
    | last target hlink hrest hfollow hq =>
      exact .last target (hnot hlink (by simp)) hrest hfollow hq
    | through target fewer hlink hon hlinks h =>
      exact .through target fewer (hnot hlink (by simp)) hon hlinks (ihlink fewer _ _ hlinks h)

/-- Without the node it leads to, a way leads there still, or it ends at the gap. -/
theorem walk_erase (hx : x ≠ []) (h : t.walk false links p names = .ok x) :
    (t.erase x).walk false links p names = .ok x ∨
      (t.erase x).walk false links p names = .error .notFound := by
  induction links, p, names using walk_induction with
  | nil => exact .inl (by rwa [walk_nil] at h ⊢)
  | cons links p name rest ihnext ihlink =>
    obtain ⟨hp, hname, hgoes⟩ := walk_cons_eq_ok.mp h
    by_cases hpx : p = x
    · right
      rw [walk_cons, hpx, node?_erase_self hx]
    · have hp' : (t.erase x).node? p = some .directory := by rwa [node?_erase_ne hpx]
      by_cases hnx : enter p name = x
      · have hgap : (t.erase x).walk false links p (name :: rest) =
            (t.erase x).walk false links x rest := by
          rw [walk_cons, hp', hnx, node?_erase_self hx]
          exact if_neg hname
        rw [hgap]
        cases rest with
        | nil => exact .inl (walk_nil ..)
        | cons => exact .inr (by rw [walk_cons, node?_erase_self hx])
      · rw [walk_cons, hp', node?_erase_ne hnx]
        simp only [if_neg hname]
        cases hgoes with
        | into hnext h =>
          split
          · next target hlink => exact absurd hlink (hnext target)
          · exact ihnext h
        | last _ _ _ _ hq => exact absurd hq.symm hnx
        | through target fewer hlink hon hlinks hway =>
          subst hlinks
          simp only [hlink, if_neg hon]
          exact ihlink fewer _ _ rfl hway

/-- Whether the last link is followed makes no difference to a way that fails before it. -/
theorem walk_follow_of_error {e : FileError} (h : t.walk false links p names = .error e) :
    t.walk true links p names = .error e := by
  induction links, p, names using walk_induction with
  | nil =>
    rw [walk_nil] at h
    contradiction
  | cons links p name rest ihnext ihlink =>
    rw [walk_cons] at h ⊢
    cases hp : t.node? p with
    | none => rwa [hp] at h
    | some node =>
      rw [hp] at h
      cases node with
      | file | link => exact h
      | directory =>
        by_cases hlong : maxName < name.utf8ByteSize
        · simp only [if_pos hlong] at h ⊢
          exact h
        · simp only [if_neg hlong] at h ⊢
          split at h
          · next target hlink =>
            simp only [Bool.not_true, Bool.and_false, Bool.false_eq_true, if_false]
            split at h
            · contradiction
            · cases links with
              | zero => exact h
              | succ fewer => exact ihlink fewer _ _ rfl h
          · exact ihnext h

/-- Nor does it make one to a way that does not lead to a link. -/
theorem walk_follow_of_ok (hq : ∀ target, t.node? q ≠ some (.link target))
    (h : t.walk false links p names = .ok q) : t.walk true links p names = .ok q := by
  induction links, p, names using walk_induction with
  | nil => rwa [walk_nil] at h ⊢
  | cons links p name rest ihnext ihlink =>
    obtain ⟨hp, hname, hgoes⟩ := walk_cons_eq_ok.mp h
    refine walk_cons_eq_ok.mpr ⟨hp, hname, ?_⟩
    cases hgoes with
    | into hnext h => exact .into hnext (ihnext h)
    | last target hlink _ _ hlast => exact absurd (hlast ▸ hlink) (hq target)
    | through target fewer hlink _ hlinks h =>
      exact .through target fewer hlink (by simp) hlinks (ihlink fewer _ _ hlinks h)

/-- A way to a place goes through the directory that the names before the last one lead to. -/
theorem exists_walk_of_concat (h : t.walk false links p (names ++ [name]) = .ok q) :
    ∃ d, t.walk true links p names = .ok d ∧ t.node? d = some .directory ∧ q = enter d name := by
  induction links, p, names using walk_induction with
  | nil links p =>
    obtain ⟨hp, -, hgoes⟩ := walk_cons_eq_ok.mp h
    refine ⟨p, walk_nil .., hp, ?_⟩
    cases hgoes with
    | into _ h =>
      rw [walk_nil] at h
      exact (Except.ok.inj h).symm
    | last _ _ _ _ hq => exact hq
    | through _ _ _ hon => exact absurd rfl hon
  | cons links p first rest ihnext ihlink =>
    rw [List.cons_append] at h
    obtain ⟨hp, hname, hgoes⟩ := walk_cons_eq_ok.mp h
    cases hgoes with
    | into hnext h =>
      obtain ⟨d, hd, hgoal⟩ := ihnext h
      exact ⟨d, walk_cons_eq_ok.mpr ⟨hp, hname, .into hnext hd⟩, hgoal⟩
    | last _ _ hrest => exact absurd hrest (by simp)
    | through target fewer hlink _ hlinks h =>
      rw [← List.append_assoc] at h
      obtain ⟨d, hd, hgoal⟩ := ihlink fewer _ _ hlinks h
      exact ⟨d, walk_cons_eq_ok.mpr ⟨hp, hname, .through target fewer hlink (by simp) hlinks hd⟩,
        hgoal⟩

/-- A way that leads to a place leads somewhere without its last link, too. -/
theorem exists_walk_of_follow (h : t.walk true links p names = .ok q) :
    ∃ q', t.walk false links p names = .ok q' := by
  cases hwalk : t.walk false links p names with
  | ok q' => exact ⟨q', rfl⟩
  | error e =>
    rw [walk_follow_of_error hwalk] at h
    contradiction

/-- A name in the directory that a way leads to, be there a node of that name or not. -/
theorem walk_concat {d : Place} (hd : t.node? d = some .directory)
    (hname : ¬ maxName < name.utf8ByteSize) (h : t.walk true links p names = .ok d) :
    t.walk false links p (names ++ [name]) = .ok (enter d name) := by
  induction links, p, names using walk_induction with
  | nil links p =>
    rw [walk_nil] at h
    obtain rfl := Except.ok.inj h
    refine walk_cons_eq_ok.mpr ⟨hd, hname, ?_⟩
    by_cases hlink : ∃ target, t.node? (enter p name) = some (.link target)
    · obtain ⟨target, hlink⟩ := hlink
      exact .last target hlink rfl rfl rfl
    · exact .into (not_exists.mp hlink) (walk_nil ..)
  | cons links p first rest ihnext ihlink =>
    obtain ⟨hp, hfirst, hgoes⟩ := walk_cons_eq_ok.mp h
    refine walk_cons_eq_ok.mpr ⟨hp, hfirst, ?_⟩
    cases hgoes with
    | into hnext h => exact .into hnext (ihnext h)
    | last _ _ _ hfollow => contradiction
    | through target fewer hlink _ hlinks h =>
      have hway := ihlink fewer _ _ hlinks h
      rw [List.append_assoc] at hway
      exact .through target fewer hlink (by simp) hlinks hway

/-- Single dots may be left out of a way. -/
theorem walk_filter_dots (before after : List String)
    (h : t.walk true links p (before ++ after) = .ok q) :
    t.walk true links p (before ++ after.filter (· ≠ ".")) = .ok q := by
  generalize hnames : before ++ after = names at h
  induction links, p, names using walk_induction generalizing before after with
  | nil =>
    obtain ⟨rfl, rfl⟩ := List.append_eq_nil_iff.mp hnames
    exact h
  | cons links p name rest ihnext ihlink =>
    obtain ⟨hp, hname, hgoes⟩ := walk_cons_eq_ok.mp h
    have hkeep : ∀ before' after', before' ++ after' = rest →
        t.walk true links p (name :: (before' ++ after'.filter (· ≠ "."))) = .ok q := by
      intro before' after' hrest
      refine walk_cons_eq_ok.mpr ⟨hp, hname, ?_⟩
      cases hgoes with
      | into hnext h => exact .into hnext (ihnext before' after' hrest h)
      | last _ _ _ hfollow => contradiction
      | through target fewer hlink _ hlinks h =>
        have hway := ihlink fewer _ _ hlinks (Path.names target ++ before') after'
          (by rw [List.append_assoc, hrest]) h
        rw [List.append_assoc] at hway
        exact .through target fewer hlink (by simp) hlinks hway
    cases before with
    | cons first before =>
      obtain ⟨rfl, hrest⟩ := List.cons.inj hnames
      exact hkeep before after hrest
    | nil =>
      rw [List.nil_append] at hnames
      subst hnames
      by_cases hdot : name = "."
      · -- A dot stays where it is, in a directory, which is no link.
        subst hdot
        rw [List.filter_cons_of_neg (by simp)]
        cases hgoes with
        | into _ h => exact ihnext [] rest rfl h
        | last _ _ _ hfollow => contradiction
        | through target fewer hlink =>
          have henter : enter p "." = p := if_pos rfl
          rw [henter, hp] at hlink
          cases hlink
      · rw [List.filter_cons_of_pos (by simpa using hdot)]
        exact hkeep [] rest rfl

end Walk

end FileTree

end ReleasePreview
