import Mathlib.Data.List.TakeWhile
import ReleasePreview.Process.World

/-!
Pipes between processes. What comes out is what went in, in the same order; nobody waits for what
cannot come, and only who writes to nobody is told so.
-/
namespace ReleasePreview

namespace World

variable {content : List UInt8} {position limit : ℕ} {lines : Bool}

theorem portion_false (content : List UInt8) (position limit : ℕ) :
    portion content position limit false = (content.drop position).take limit := by
  simp [portion]

/-- Up to a line end is up to what stands in front of it, and one more. -/
theorem portion_true (content : List UInt8) (position limit : ℕ) :
    portion content position limit true = ((content.drop position).take limit).take
      ((((content.drop position).take limit).takeWhile (· ≠ 10)).length + 1) := by
  rw [portion]
  generalize (content.drop position).take limit = whole
  simp only [if_true]
  split
  · rfl
  · next hle => exact (List.take_of_length_le (by omega)).symm

theorem portion_isPrefix (content : List UInt8) (position limit : ℕ) (lines : Bool) :
    portion content position limit lines <+: (content.drop position).take limit := by
  cases lines with
  | false => exact portion_false content position limit ▸ List.prefix_refl _
  | true => exact portion_true content position limit ▸ List.take_prefix _ _

theorem length_portion_le (content : List UInt8) (position limit : ℕ) (lines : Bool) :
    (portion content position limit lines).length ≤ limit :=
  Nat.le_trans (portion_isPrefix content position limit lines).length_le
    (List.length_take_le limit _)

theorem portion_eq_nil (hlimit : 0 < limit) :
    portion content position limit lines = [] ↔ content.length ≤ position := by
  rw [← List.drop_eq_nil_iff]
  cases lines with
  | false => simp [portion_false, Nat.ne_of_gt hlimit]
  | true => simp [portion_true, Nat.ne_of_gt hlimit]

/-- Only the last byte may be a line end. -/
theorem ne_of_mem_dropLast_portion {b : UInt8}
    (h : b ∈ (portion content position limit true).dropLast) : b ≠ 10 := by
  rw [portion_true] at h
  generalize (content.drop position).take limit = whole at h
  have hline : (whole.take ((whole.takeWhile (· ≠ 10)).length + 1)).dropLast <+:
      whole.takeWhile (· ≠ 10) := by
    refine List.prefix_of_prefix_length_le ((List.dropLast_prefix _).trans (List.take_prefix _ _))
      (List.takeWhile_prefix _) ?_
    rw [List.length_dropLast, List.length_take]
    omega
  simpa using List.mem_takeWhile_imp (hline.subset h)

end World

namespace Pipe

variable {p : Pipe} {bytes : List UInt8} {limit : ℕ} {lines : Bool}

/-- The size of a pipe is that of its content. One that is not collected holds no more than it
may. -/
structure WellFormed (p : Pipe) : Prop where
  size_eq : p.size = p.content.length
  size_le (h : p.isCollected = false) : p.size ≤ capacity

theorem content_push (p : Pipe) (bytes : List UInt8) :
    (p.push bytes).content = p.content ++ bytes := by
  simp [content, push]

theorem WellFormed.push (h : p.WellFormed)
    (hroom : p.isCollected = false → p.size + bytes.length ≤ capacity) :
    (p.push bytes).WellFormed where
  size_eq := by
    rw [content_push, List.length_append, ← h.size_eq]
    rfl
  size_le := hroom

theorem take_of_empty
    (hfirst : (if p.front.isEmpty then p.back.reverse else p.front) = []) :
    p.take limit lines = ([], p) := by
  rw [take, hfirst]

/-- What is taken is a portion of the first piece. -/
theorem exists_take_eq (limit : ℕ) (lines : Bool) {piece : List UInt8}
    {front : List (List UInt8)}
    (hfirst : (if p.front.isEmpty then p.back.reverse else p.front) = piece :: front) :
    ∃ count ≤ piece.length, piece.take count = World.portion piece 0 limit lines ∧
      p.take limit lines = (piece.take count, { p with
        front := if (piece.drop count).isEmpty then front else piece.drop count :: front
        back := if p.front.isEmpty then [] else p.back
        size := p.size - count }) := by
  have hcount (k n : ℕ) : (if k < n then k + 1 else n) ≤ n := by split <;> omega
  refine ⟨_, Nat.le_trans (hcount _ _) (List.length_take_le' limit piece), ?_,
    by rw [take, hfirst]⟩
  have hwhole : piece.take (piece.take limit).length = piece.take limit := by simp
  cases lines with
  | false => simp [World.portion_false]
  | true =>
    rw [World.portion_true, List.drop_zero, if_pos rfl]
    split
    · next hlt => rw [List.take_take, Nat.min_eq_left (by rw [List.length_take] at hlt; omega)]
    · next hle =>
      rw [hwhole]
      exact (List.take_of_length_le (by omega)).symm

theorem content_take (p : Pipe) (limit : ℕ) (lines : Bool) :
    (p.take limit lines).1 ++ (p.take limit lines).2.content = p.content := by
  have hpieces : (if p.front.isEmpty then p.back.reverse else p.front) ++
      (if p.front.isEmpty then [] else p.back).reverse = p.front ++ p.back.reverse := by
    cases hfront : p.front <;> simp
  cases hfirst : if p.front.isEmpty then p.back.reverse else p.front with
  | nil => rw [take_of_empty hfirst, List.nil_append]
  | cons piece front =>
    obtain ⟨count, hcount, -, htake⟩ := exists_take_eq limit lines hfirst
    rw [htake, content, content, ← hpieces, hfirst]
    dsimp only
    by_cases hrest : piece.drop count = []
    · have hwhole : piece.take count = piece := by
        simpa [hrest] using List.take_append_drop count piece
      simp [hrest, hwhole]
    · simp [hrest, ← List.append_assoc]

theorem take_isCollected (p : Pipe) (limit : ℕ) (lines : Bool) :
    (p.take limit lines).2.isCollected = p.isCollected := by
  unfold take
  split <;> rfl

theorem length_take_le (p : Pipe) (limit : ℕ) (lines : Bool) :
    (p.take limit lines).1.length ≤ limit := by
  cases hfirst : if p.front.isEmpty then p.back.reverse else p.front with
  | nil => simp [take_of_empty hfirst]
  | cons piece front =>
    obtain ⟨count, -, hportion, htake⟩ := exists_take_eq limit lines hfirst
    rw [htake, hportion]
    exact World.length_portion_le piece 0 limit lines

/-- A line that is taken is not more than one. -/
theorem ne_of_mem_dropLast_take {b : UInt8} (h : b ∈ (p.take limit true).1.dropLast) :
    b ≠ 10 := by
  cases hfirst : if p.front.isEmpty then p.back.reverse else p.front with
  | nil => simp [take_of_empty hfirst] at h
  | cons piece front =>
    obtain ⟨count, -, hportion, htake⟩ := exists_take_eq limit true hfirst
    rw [htake, hportion] at h
    exact World.ne_of_mem_dropLast_portion h

theorem size_take (p : Pipe) (limit : ℕ) (lines : Bool) :
    (p.take limit lines).2.size = p.size - (p.take limit lines).1.length := by
  cases hfirst : if p.front.isEmpty then p.back.reverse else p.front with
  | nil => simp [take_of_empty hfirst]
  | cons piece front =>
    obtain ⟨count, hcount, -, htake⟩ := exists_take_eq limit lines hfirst
    rw [htake, List.length_take, Nat.min_eq_left hcount]

theorem WellFormed.take (h : p.WellFormed) (limit : ℕ) (lines : Bool) :
    (p.take limit lines).2.WellFormed where
  size_eq := by
    have hcontent := congrArg List.length (content_take p limit lines)
    rw [List.length_append] at hcontent
    rw [size_take, h.size_eq]
    omega
  size_le hcollected := by
    rw [take_isCollected] at hcollected
    rw [size_take]
    exact Nat.le_trans (Nat.sub_le _ _) (h.size_le hcollected)

end Pipe

namespace World

variable {w w' : World} {number descriptor pipe limit : ℕ} {lines : Bool} {p p' : Pipe}
  {bytes rest : List UInt8} {e : FileError}

/-- A descriptor of a process is open on a source in some way. -/
def IsOpen (w : World) (number descriptor : ℕ) (source : Endpoint) (way : OpenFile → Bool) : Prop :=
  ∃ i file, w.openFile? number descriptor = some (i, file) ∧ way file ∧ file.source = source

abbrev IsReader (w : World) (number descriptor pipe : ℕ) : Prop :=
  w.IsOpen number descriptor (.reading pipe) (·.isRead)

abbrev IsWriter (w : World) (number descriptor pipe : ℕ) : Prop :=
  w.IsOpen number descriptor (.writing pipe) (·.isWritten)

theorem isHeld_iff {source : Endpoint} : w.isHeld source ↔
    ∃ number r, (number, r) ∈ w.records ∧ ∃ d ∈ r.descriptors, ∃ file,
      w.openFiles[d.file]? = some file ∧ file.source = source := by
  simp [isHeld]

section Reading

/-- Reading a file never waits, and gives nothing behind its end only. -/
theorem exists_read?_file {i : ℕ} {file : OpenFile} {place : Place} {content : List UInt8}
    {mode : FileMode} (hfile : w.openFile? number descriptor = some (i, file))
    (hread : file.isRead) (hsource : file.source = .file place)
    (hnode : w.files.node? place = some (.file content mode)) (hlimit : 0 < limit) :
    ∃ w' bytes, w.read? number descriptor limit lines = some (w', .ok bytes) ∧
      bytes <+: content.drop file.position ∧ (bytes = [] ↔ content.length ≤ file.position) := by
  have hprefix := portion_isPrefix content file.position limit lines
  refine ⟨{ w with openFiles := w.openFiles.setIfInBounds i { file with
    position := file.position + (portion content file.position limit lines).length } },
    portion content file.position limit lines, ?_, hprefix.trans (List.take_prefix _ _),
    portion_eq_nil hlimit⟩
  simp [World.read?, hfile, hread, hsource, hnode]

theorem IsReader.read? (h : w.IsReader number descriptor pipe) (hp : w.pipes[pipe]? = some p) :
    w.read? number descriptor limit lines =
      if (p.take limit lines).1 ≠ [] then
        some ({ w with pipes := w.pipes.setIfInBounds pipe (p.take limit lines).2 },
          .ok (p.take limit lines).1)
      else if w.isHeld (.writing pipe) then none else some (w, .ok []) := by
  obtain ⟨i, file, hfile, hread, hsource⟩ := h
  simp [World.read?, hfile, hread, hsource, hp]

/-- Reading waits for those who may still write. -/
theorem IsReader.isHeld_of_none (h : w.IsReader number descriptor pipe)
    (hp : w.pipes[pipe]? = some p) (hread : w.read? number descriptor limit lines = none) :
    w.isHeld (.writing pipe) := by
  rw [h.read? hp] at hread
  split at hread
  · contradiction
  · split at hread
    · assumption
    · contradiction

/-- What is read was in front. It is the end only if nobody writes any more. -/
theorem IsReader.content (h : w.IsReader number descriptor pipe) (hp : w.pipes[pipe]? = some p)
    (hread : w.read? number descriptor limit lines = some (w', .ok bytes)) :
    ∃ p', w'.pipes[pipe]? = some p' ∧ bytes ++ p'.content = p.content ∧
      (p.WellFormed → p'.WellFormed) ∧ bytes.length ≤ limit ∧
      (bytes = [] → w.isHeld (.writing pipe) = false) := by
  rw [h.read? hp] at hread
  have hbound : pipe < w.pipes.size := (Array.getElem?_eq_some_iff.mp hp).1
  split at hread
  · next hne =>
    obtain ⟨rfl, rfl⟩ : _ = w' ∧ (p.take limit lines).1 = bytes := by simpa using hread
    exact ⟨(p.take limit lines).2, by simp [hbound], Pipe.content_take p limit lines,
      fun hp => hp.take limit lines, Pipe.length_take_le p limit lines, fun hnil => absurd hnil hne⟩
  · split at hread
    · contradiction
    · next hheld =>
      obtain ⟨rfl, rfl⟩ : w = w' ∧ [] = bytes := by simpa using hread
      exact ⟨p, hp, rfl, id, Nat.zero_le limit, fun _ => by simpa using hheld⟩

end Reading

section Writing

/-- How much of some bytes a pipe takes. -/
def roomFor (p : Pipe) (bytes : List UInt8) : ℕ :=
  if p.isCollected then bytes.length else Pipe.capacity - p.size

/-- A pipe takes none of some bytes now. -/
def Refuses (p : Pipe) (bytes : List UInt8) : Prop :=
  roomFor p bytes = 0 ∨ (roomFor p bytes < bytes.length ∧ bytes.length ≤ Pipe.atomicSize)

theorem refuses_iff (hbytes : bytes ≠ []) : Refuses p bytes ↔
    p.isCollected = false ∧ (Pipe.capacity ≤ p.size ∨
      (bytes.length ≤ Pipe.atomicSize ∧ Pipe.capacity < p.size + bytes.length)) := by
  have hpos : 0 < bytes.length := List.length_pos_iff.mpr hbytes
  unfold Refuses roomFor
  cases p.isCollected with
  | true => simp [hbytes]
  | false => 
    simp only [Bool.false_eq_true, if_false, true_and]
    omega

/-- What becomes of writing to a pipe. -/
theorem IsWriter.attempt?_cases (h : w.IsWriter number descriptor pipe)
    (hp : w.pipes[pipe]? = some p) (bytes : List UInt8) :
    (w.hasReader pipe = false ∧ w.attempt? number descriptor bytes =
      some (w.signal number Signal.pipeNumber, .error .brokenPipe)) ∨
    (w.hasReader pipe = true ∧ Refuses p bytes ∧ w.attempt? number descriptor bytes = none) ∨
    (w.hasReader pipe = true ∧ ¬ Refuses p bytes ∧ w.attempt? number descriptor bytes =
      some ({ w with
        pipes := w.pipes.setIfInBounds pipe (p.push (bytes.take (roomFor p bytes))) },
        .ok (bytes.drop (roomFor p bytes)))) := by
  obtain ⟨i, file, hfile, hwritten, hsource⟩ := h
  cases hreader : w.hasReader pipe with
  | false => exact .inl ⟨rfl, by simp [World.attempt?, hfile, hwritten, hsource, hp, hreader]⟩
  | true =>
    by_cases hrefuses : Refuses p bytes
    · refine .inr (.inl ⟨rfl, hrefuses, ?_⟩)
      unfold Refuses roomFor at hrefuses
      simp [World.attempt?, hfile, hwritten, hsource, hp, hreader, hrefuses]
    · refine .inr (.inr ⟨rfl, hrefuses, ?_⟩)
      unfold Refuses roomFor at hrefuses
      simp [World.attempt?, hfile, hwritten, hsource, hp, hreader, hrefuses, roomFor]

/-- Only who writes to nobody is told so, and gets a signal. -/
theorem IsWriter.attempt?_error (h : w.IsWriter number descriptor pipe)
    (hp : w.pipes[pipe]? = some p) :
    w.attempt? number descriptor bytes = some (w', .error e) ↔
      w.hasReader pipe = false ∧ e = .brokenPipe ∧ w' = w.signal number Signal.pipeNumber := by
  rcases h.attempt?_cases hp bytes with ⟨hreader, heq⟩ | ⟨hreader, -, heq⟩ |
    ⟨hreader, -, heq⟩
  · rw [heq, hreader]
    simp [and_comm, eq_comm]
  · simp [heq, hreader]
  · simp [heq, hreader]

/-- Writing waits for room as long as somebody may make some. -/
theorem IsWriter.attempt?_eq_none (h : w.IsWriter number descriptor pipe)
    (hp : w.pipes[pipe]? = some p) :
    w.attempt? number descriptor bytes = none ↔ w.hasReader pipe ∧ Refuses p bytes := by
  rcases h.attempt?_cases hp bytes with ⟨hreader, heq⟩ | ⟨hreader, hrefuses, heq⟩ |
    ⟨hreader, hrefuses, heq⟩
  · simp [heq, hreader]
  · simp [heq, hreader, hrefuses]
  · simp [heq, hrefuses]

/-- What is written comes last. Small pieces stay whole, and no pipe gets more than it holds. -/
theorem IsWriter.content (h : w.IsWriter number descriptor pipe) (hp : w.pipes[pipe]? = some p)
    (hwrite : w.attempt? number descriptor bytes = some (w', .ok rest)) :
    ∃ p' taken, w'.pipes[pipe]? = some p' ∧ bytes = taken ++ rest ∧
      p'.content = p.content ++ taken ∧ (p.WellFormed → p'.WellFormed) ∧
      (bytes ≠ [] → taken ≠ []) ∧ (bytes.length ≤ Pipe.atomicSize → rest = []) ∧
      w.hasReader pipe := by
  have hbound : pipe < w.pipes.size := (Array.getElem?_eq_some_iff.mp hp).1
  rcases h.attempt?_cases hp bytes with ⟨-, heq⟩ | ⟨-, -, heq⟩ |
    ⟨hreader, hrefuses, heq⟩
  · simp [heq] at hwrite
  · simp [heq] at hwrite
  · obtain ⟨rfl, rfl⟩ : _ = w' ∧ bytes.drop (roomFor p bytes) = rest := by
      simpa [heq] using hwrite
    obtain ⟨hroom, hsmall⟩ := not_or.mp hrefuses
    refine ⟨p.push (bytes.take (roomFor p bytes)), bytes.take (roomFor p bytes), by simp [hbound],
      (List.take_append_drop _ _).symm, Pipe.content_push p _, fun hwell => hwell.push ?_, ?_, ?_,
      hreader⟩
    · intro hcollected
      have hfull := hwell.size_le hcollected
      have htaken := List.length_take_le (roomFor p bytes) bytes
      simp only [roomFor, hcollected, Bool.false_eq_true, if_false] at htaken ⊢
      omega
    · simp [hroom]
    · intro hle
      rw [List.drop_eq_nil_iff]
      omega

end Writing

section Transfers

/-- What goes on at a pipe from one world to another one: the bytes that are written to it, and
those that are read from it, by whatever processes. -/
inductive Transfers (pipe : ℕ) (w : World) : List UInt8 → List UInt8 → World → Prop where
  | none : Transfers pipe w [] [] w
  | read {sent received bytes : List UInt8} {w' w'' : World} {number descriptor limit : ℕ}
      {lines : Bool} (before : Transfers pipe w sent received w')
      (hreader : w'.IsReader number descriptor pipe)
      (hread : w'.read? number descriptor limit lines = some (w'', .ok bytes)) :
      Transfers pipe w sent (received ++ bytes) w''
  | write {sent received taken rest : List UInt8} {w' w'' : World} {number descriptor : ℕ}
      (before : Transfers pipe w sent received w')
      (hwriter : w'.IsWriter number descriptor pipe)
      (hwrite : w'.attempt? number descriptor (taken ++ rest) = some (w'', .ok rest)) :
      Transfers pipe w (sent ++ taken) received w''
  | other {sent received : List UInt8} {w' w'' : World}
      (before : Transfers pipe w sent received w')
      (hpipe : w''.pipes[pipe]? = w'.pipes[pipe]?) : Transfers pipe w sent received w''

/-- Nothing is lost, made up or reordered in a pipe. -/
theorem Transfers.content {sent received : List UInt8} (h : Transfers pipe w sent received w')
    (hp : w.pipes[pipe]? = some p) :
    ∃ p', w'.pipes[pipe]? = some p' ∧ received ++ p'.content = p.content ++ sent ∧
      (p.WellFormed → p'.WellFormed) := by
  induction h with
  | none => exact ⟨p, hp, by simp, id⟩
  | read _ hreader hread ih =>
    obtain ⟨p', hp', hcontent, hwell⟩ := ih
    obtain ⟨p'', hp'', hbytes, hwell', -⟩ := hreader.content hp' hread
    exact ⟨p'', hp'', by rw [List.append_assoc, hbytes, hcontent], hwell' ∘ hwell⟩
  | write _ hwriter hwrite ih =>
    obtain ⟨p', hp', hcontent, hwell⟩ := ih
    obtain ⟨p'', taken, hp'', hbytes, hcontent', hwell', -⟩ := hwriter.content hp' hwrite
    obtain rfl := List.append_cancel_right hbytes
    refine ⟨p'', hp'', ?_, hwell' ∘ hwell⟩
    rw [hcontent', ← List.append_assoc, hcontent, List.append_assoc]
  | other _ hpipe ih =>
    obtain ⟨p', hp', hcontent⟩ := ih
    exact ⟨p', hpipe.trans hp', hcontent⟩

end Transfers

end World

end ReleasePreview
