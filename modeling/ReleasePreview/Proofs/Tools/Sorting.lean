import Mathlib.Algebra.Order.Field.Rat
import Mathlib.Tactic.FieldSimp
import Mathlib.Tactic.Positivity
import ReleasePreview.Tools.Sorting

/-!
Lines in order. Lines that are put in order are those that have been there, equal ones one after the
other as they came, and it is them that pass for lines in order.
-/
namespace ReleasePreview.Tools.Sorting

open Std

section Comparisons

variable {α β : Type}

theorem transCmp_on (cmp : β → β → Ordering) [TransCmp cmp] (f : α → β) :
    TransCmp fun a b => cmp (f a) (f b) where
  eq_swap := OrientedCmp.eq_swap
  isLE_trans := TransCmp.isLE_trans

theorem transCmp_swap (cmp : α → α → Ordering) [TransCmp cmp] :
    TransCmp fun a b => (cmp a b).swap where
  eq_swap := congrArg Ordering.swap OrientedCmp.eq_swap
  isLE_trans := by
    intro a b c hab hbc
    rw [← OrientedCmp.eq_swap] at hab hbc ⊢
    exact TransCmp.isLE_trans hbc hab

theorem transCmp_then (f g : α → α → Ordering) [TransCmp f] [TransCmp g] :
    TransCmp fun a b => (f a b).then (g a b) :=
  inferInstanceAs (TransCmp (compareLex f g))

instance : TransCmp compareTexts := transCmp_on compare String.ofList

/-- Numbers are compared as what they are, a whole number over a power of ten. -/
theorem compareNumbers_eq (a b : ℤ × ℕ) :
    compareNumbers a b = compare ((a.1 : ℚ) / 10 ^ a.2) (b.1 / 10 ^ b.2) := by
  have hmono : StrictMono fun n : ℤ => (n : ℚ) / (10 ^ a.2 * 10 ^ b.2) := fun m n h => by
    dsimp only
    gcongr
  have hleft : (a.1 : ℚ) / 10 ^ a.2 =
      ((a.1 * (10 ^ b.2 : ℕ) : ℤ) : ℚ) / (10 ^ a.2 * 10 ^ b.2) := by
    push_cast
    field_simp
  have hright : (b.1 : ℚ) / 10 ^ b.2 =
      ((b.1 * (10 ^ a.2 : ℕ) : ℤ) : ℚ) / (10 ^ a.2 * 10 ^ b.2) := by
    push_cast
    field_simp
  rw [hleft, hright, ← cmp_eq_compare, hmono.cmp_map_eq, cmp_eq_compare]
  rfl

instance : TransCmp compareNumbers := by
  have h := transCmp_on compare fun a : ℤ × ℕ => (a.1 : ℚ) / 10 ^ a.2
  simpa only [← compareNumbers_eq] using h

instance : TransCmp compareVersions := by
  have := transCmp_on compareTexts (Prod.fst : List Char × ℕ → _)
  have := transCmp_on compare (Prod.snd : List Char × ℕ → _)
  have := transCmp_then (fun x y : List Char × ℕ => compareTexts x.1 y.1) fun x y => compare x.2 y.2
  exact transCmp_on (List.compareLex _) versionParts

theorem transCmp_ite {c : Prop} [Decidable c] {f g : α → α → Ordering} (hf : c → TransCmp f)
    (hg : ¬ c → TransCmp g) : TransCmp fun a b => if c then f a b else g a b := by
  by_cases hc : c
  · simpa only [if_pos hc] using hf hc
  · simpa only [if_neg hc] using hg hc

/-- All ways to compare texts are orders, but for numbers of floating point. -/
theorem transCmp_compareBy {how : Comparison} (h : how.general = false) :
    TransCmp (compareBy how) := by
  have hup : TransCmp (compareUp how) := by
    refine transCmp_ite (fun _ => transCmp_on compareNumbers numberOf) fun _ => ?_
    refine transCmp_ite (fun hgeneral => by simp [h] at hgeneral) fun _ => ?_
    refine transCmp_ite (fun _ => ?_) fun _ => ?_
    · have := transCmp_on compare unitOf
      have := transCmp_on compareNumbers numberOf
      exact transCmp_then (fun a b => compare (unitOf a) (unitOf b)) _
    · refine transCmp_ite (fun _ => inferInstance) fun _ => ?_
      exact transCmp_ite (fun _ => transCmp_on compareTexts (List.map Char.toUpper)) fun _ =>
        inferInstance
  exact transCmp_ite (fun _ => transCmp_swap (compareUp how)) fun _ => hup

theorem transCmp_compareKeys (tab : Option Char) {keys : List SortKey}
    (h : ∀ k ∈ keys, k.how.general = false) : TransCmp (compareKeys tab keys) := by
  have hfold : ∀ f : List Char → List Char → Ordering, TransCmp f → TransCmp fun a b =>
      keys.foldl (fun r k => r.then (compareBy k.how (keyText tab k a) (keyText tab k b)))
        (f a b) := by
    induction keys with
    | nil => exact fun f hf => hf
    | cons k keys ih =>
      obtain ⟨hk, hkeys⟩ := List.forall_mem_cons.mp h
      intro f hf
      have := transCmp_compareBy hk
      have := transCmp_on (compareBy k.how) (keyText tab k)
      exact ih hkeys _ (transCmp_then f fun a b =>
        compareBy k.how (keyText tab k a) (keyText tab k b))
  exact hfold (fun _ _ => .eq) { eq_swap := rfl, isLE_trans := fun _ _ => rfl }

/-- Lines can be put in order by keys of any kind but those. -/
theorem Order.transCmp {o : Order} (h : ∀ k ∈ o.keys, k.how.general = false) :
    TransCmp o.compare := by
  have := transCmp_compareKeys o.tab h
  refine transCmp_ite (fun _ => this) fun _ => ?_
  have : TransCmp fun a b =>
      if o.usual.reversed then (compareTexts a b).swap else compareTexts a b :=
    transCmp_ite (fun _ => transCmp_swap compareTexts) fun _ => inferInstance
  exact transCmp_then (compareKeys o.tab o.keys) _

end Comparisons

section Check

variable {wrong : List Char → List Char → Bool} {lines : List (List Char)} {line : List Char}
  {m n : ℕ}

theorem disorder_cons_cons (a b : List Char) (lines : List (List Char)) :
    disorder wrong n (a :: b :: lines) =
      if wrong a b then some (n + 1, b) else disorder wrong (n + 1) (b :: lines) := rfl

/-- Lines pass if none of them is wrong behind the one before. -/
theorem disorder_eq_none_iff :
    disorder wrong n lines = none ↔ lines.IsChain fun a b => wrong a b = false := by
  induction lines generalizing n with
  | nil => exact iff_of_true rfl .nil
  | cons a lines ih =>
    cases lines with
    | nil => exact iff_of_true rfl (.singleton a)
    | cons b lines =>
      rw [disorder_cons_cons, List.isChain_cons_cons, ← @ih (n + 1)]
      cases wrong a b <;> simp

/-- Lines in order are passed over. -/
theorem disorder_append {front back : List (List Char)} {a : List Char}
    (h : (front ++ [a]).IsChain fun a b => wrong a b = false) :
    disorder wrong n (front ++ a :: back) = disorder wrong (n + front.length) (a :: back) := by
  induction front generalizing n with
  | nil => rfl
  | cons c front ih =>
    obtain ⟨hc, hfront⟩ := List.isChain_cons.mp h
    have hlength : n + (c :: front).length = n + 1 + front.length := by
      rw [List.length_cons]
      omega
    rw [hlength, ← ih hfront]
    cases front with
    | nil =>
      have hright : wrong c a = false := hc a rfl
      rw [List.singleton_append, disorder_cons_cons, hright]
      rfl
    | cons b front =>
      have hright : wrong c b = false := hc b rfl
      rw [List.cons_append, List.cons_append, disorder_cons_cons, hright]
      rfl

theorem exists_of_disorder (h : disorder wrong n lines = some (m, line)) :
    ∃ front a back, lines = front ++ a :: line :: back ∧ m = n + front.length + 1 ∧
      wrong a line ∧ (front ++ [a]).IsChain fun a b => wrong a b = false := by
  induction lines generalizing n with
  | nil => contradiction
  | cons c lines ih =>
    cases lines with
    | nil => contradiction
    | cons b lines =>
      rw [disorder_cons_cons] at h
      split at h
      · next hwrong =>
        obtain ⟨rfl, rfl⟩ := Prod.mk.inj (Option.some.inj h)
        exact ⟨[], c, lines, rfl, rfl, hwrong, .singleton c⟩
      · next hright =>
        obtain ⟨front, a, back, heq, rfl, ha, hchain⟩ := ih h
        refine ⟨c :: front, a, back, by rw [heq]; rfl, ?_, ha, ?_⟩
        · rw [List.length_cons]
          omega
        · rw [List.cons_append]
          refine List.isChain_cons.mpr ⟨fun d hd => ?_, hchain⟩
          have hhead : (front ++ [a]).head? = some b := by
            have hb := congrArg List.head? heq
            cases front <;> simpa using hb.symm
          rw [hhead, Option.mem_some] at hd
          rwa [← hd, ← Bool.not_eq_true]

/-- The line that is named is the first one that is wrong behind the one before. -/
theorem disorder_eq_some_iff : disorder wrong n lines = some (m, line) ↔
    ∃ front a back, lines = front ++ a :: line :: back ∧ m = n + front.length + 1 ∧
      wrong a line ∧ (front ++ [a]).IsChain fun a b => wrong a b = false := by
  refine ⟨exists_of_disorder, ?_⟩
  rintro ⟨front, a, back, rfl, rfl, ha, hchain⟩
  rw [disorder_append hchain, disorder_cons_cons, if_pos ha]

end Check

section Distinct

variable {cmp : List Char → List Char → Ordering} {lines : List (List Char)}

theorem distinct_sublist (same : List Char → List Char → Bool) (lines : List (List Char)) :
    (distinct same lines).Sublist lines := by
  fun_induction distinct same lines with
  | case1 a b lines h ih => exact ih.trans ((List.sublist_cons_self b lines).cons_cons a)
  | case2 a b lines h ih => exact ih.cons_cons a
  | case3 lines h => exact .refl _

theorem distinct_of_pairwise (h : lines.Pairwise fun a b => cmp a b = .lt) :
    distinct (fun a b => cmp a b = .eq) lines = lines := by
  fun_induction distinct (fun a b => decide (cmp a b = .eq)) lines with
  | case1 a b lines hsame ih =>
    have hlt : cmp a b = .lt := (List.pairwise_cons.mp h).1 b List.mem_cons_self
    simp [hlt] at hsame
  | case2 a b lines hsame ih => rw [ih h.of_cons]
  | case3 lines hshort => rfl

variable [TransCmp cmp]

/-- Of lines in order, those that are left are all different. -/
theorem pairwise_distinct (h : lines.Pairwise fun a b => (cmp a b).isLE) :
    (distinct (fun a b => cmp a b = .eq) lines).Pairwise fun a b => cmp a b = .lt := by
  fun_induction distinct (fun a b => decide (cmp a b = .eq)) lines with
  | case1 a b lines hsame ih =>
    exact ih (h.sublist ((List.sublist_cons_self b lines).cons_cons a))
  | case2 a b lines hsame ih =>
    obtain ⟨ha, hrest⟩ := List.pairwise_cons.mp h
    have hlt : cmp a b = .lt := by
      have hle := ha b List.mem_cons_self
      cases hab : cmp a b with
      | lt => rfl
      | eq => simp [hab] at hsame
      | gt => simp [hab] at hle
    refine List.pairwise_cons.mpr ⟨fun c hc => ?_, ih hrest⟩
    rcases List.mem_cons.mp ((distinct_sublist _ _).mem hc) with rfl | hc
    · exact hlt
    · exact TransCmp.lt_of_lt_of_isLE hlt ((List.pairwise_cons.mp hrest).1 c hc)
  | case3 lines hshort =>
    cases lines with
    | nil => exact .nil
    | cons a lines =>
      cases lines with
      | nil => exact List.pairwise_singleton _ a
      | cons b lines => exact (hshort a b lines rfl).elim

/-- For each line one is left that is equal. -/
theorem exists_distinct {line : List Char} (h : line ∈ lines) :
    ∃ first ∈ distinct (fun a b => cmp a b = .eq) lines, cmp first line = .eq := by
  fun_induction distinct (fun a b => decide (cmp a b = .eq)) lines generalizing line with
  | case1 a b lines hsame ih =>
    rcases List.mem_cons.mp h with rfl | h
    · exact ih List.mem_cons_self
    rcases List.mem_cons.mp h with rfl | h
    · obtain ⟨first, hfirst, heq⟩ := ih List.mem_cons_self
      exact ⟨first, hfirst, TransCmp.eq_trans heq (of_decide_eq_true hsame)⟩
    · exact ih (List.mem_cons_of_mem a h)
  | case2 a b lines hsame ih =>
    rcases List.mem_cons.mp h with rfl | h
    · exact ⟨line, List.mem_cons_self, ReflCmp.compare_self⟩
    · obtain ⟨first, hfirst, heq⟩ := ih h
      exact ⟨first, List.mem_cons_of_mem a hfirst, heq⟩
  | case3 lines hshort => exact ⟨line, h, ReflCmp.compare_self⟩

end Distinct

section Arranged

variable {o : Order} {inputs : List (List (List Char))} {lines : List (List Char)}
  {a b : List Char}

theorem Order.allows_iff : o.allows a b ↔ (o.compare a b).isLE := by
  rw [Order.allows]
  cases o.compare a b <;> decide

theorem Order.allows_trans [TransCmp o.compare] (a b c : List Char) (hab : o.allows a b)
    (hbc : o.allows b c) : o.allows a c := by
  rw [allows_iff] at hab hbc ⊢
  exact TransCmp.isLE_trans hab hbc

theorem Order.allows_total [TransCmp o.compare] (a b : List Char) :
    (o.allows a b || o.allows b a) = true := by
  have hswap : o.compare b a = (o.compare a b).swap := OrientedCmp.eq_swap
  rw [Bool.or_eq_true, allows_iff, allows_iff, hswap]
  cases o.compare a b <;> decide

/-- Lines of which none stands behind a greater one. -/
def Order.Sorted (o : Order) (lines : List (List Char)) : Prop :=
  lines.Pairwise fun a b => o.allows a b

theorem foldl_merge_perm (le : List Char → List Char → Bool) (inputs : List (List (List Char)))
    (lines : List (List Char)) :
    (inputs.foldl (fun a b => a.merge b le) lines).Perm (lines ++ inputs.flatten) := by
  induction inputs generalizing lines with
  | nil => simp
  | cons input inputs ih =>
    rw [List.foldl_cons, List.flatten_cons, ← List.append_assoc]
    exact (ih _).trans ((List.merge_perm_append le).append_right _)

theorem Order.sorted_foldl_merge [TransCmp o.compare] (hlines : o.Sorted lines)
    (hinputs : ∀ input ∈ inputs, o.Sorted input) :
    o.Sorted (inputs.foldl (fun a b => a.merge b o.allows) lines) := by
  induction inputs generalizing lines with
  | nil => exact hlines
  | cons input inputs ih =>
    obtain ⟨hinput, hinputs⟩ := List.forall_mem_cons.mp hinputs
    exact ih (List.pairwise_merge o.allows_trans o.allows_total _ _ hlines hinput) hinputs

/-- Lines are put in order and none is lost, whether they are merged or sorted. -/
theorem Order.arranged_perm (o : Order) (merges : Bool) (inputs : List (List (List Char))) :
    (o.arranged false merges inputs).Perm inputs.flatten := by
  cases merges with
  | false => exact List.mergeSort_perm _ _
  | true => exact foldl_merge_perm o.allows inputs []

theorem Order.sorted_arranged [TransCmp o.compare] {merges : Bool}
    (h : merges → ∀ input ∈ inputs, o.Sorted input) :
    o.Sorted (o.arranged false merges inputs) := by
  cases merges with
  | false => exact List.pairwise_mergeSort o.allows_trans o.allows_total _
  | true => exact sorted_foldl_merge .nil (h rfl)

/-- Lines pass if and only if all of them are in order, not only those next to each other. -/
theorem Order.passes_iff_sorted [TransCmp o.compare] {n : ℕ} :
    disorder (o.isWrong false) n lines = none ↔ o.Sorted lines := by
  rw [disorder_eq_none_iff, Order.Sorted]
  have : Trans (fun a b => o.allows a b = true) (fun a b => o.allows a b = true)
      fun a b => o.allows a b = true := ⟨fun {a b c} => o.allows_trans a b c⟩
  rw [← List.isChain_iff_pairwise]
  simp [isWrong]

/-- They pass as different ones if each is smaller than all behind it. -/
theorem Order.passes_iff_ascending [TransCmp o.compare] {n : ℕ} :
    disorder (o.isWrong true) n lines = none ↔ lines.Pairwise fun a b => o.compare a b = .lt := by
  rw [disorder_eq_none_iff]
  have : Trans (fun a b => o.compare a b = .lt) (fun a b => o.compare a b = .lt)
      fun a b => o.compare a b = .lt := ⟨TransCmp.lt_trans⟩
  rw [← List.isChain_iff_pairwise]
  simp [isWrong]

/-- What has been put in order passes for it, with or without the lines that are there again. -/
theorem Order.passes_arranged (hkeys : ∀ k ∈ o.keys, k.how.general = false) (unique merges : Bool)
    (hinputs : merges → ∀ input ∈ inputs, disorder (o.isWrong false) 1 input = none) (n : ℕ) :
    disorder (o.isWrong unique) n (o.arranged unique merges inputs) = none := by
  have := o.transCmp hkeys
  have hsorted : o.Sorted (o.arranged false merges inputs) :=
    sorted_arranged fun hmerges input hinput => passes_iff_sorted.mp (hinputs hmerges input hinput)
  cases unique with
  | false => exact passes_iff_sorted.mpr hsorted
  | true => exact passes_iff_ascending.mpr (pairwise_distinct (hsorted.imp allows_iff.mp))

/-- Of the lines that are left out, there is an equal one. -/
theorem Order.exists_arranged (hkeys : ∀ k ∈ o.keys, k.how.general = false) (unique merges : Bool)
    {line : List Char} (h : line ∈ inputs.flatten) :
    ∃ first ∈ o.arranged unique merges inputs, o.compare first line = .eq := by
  have := o.transCmp hkeys
  have hmem := (o.arranged_perm merges inputs).mem_iff.mpr h
  cases unique with
  | false => exact ⟨line, hmem, ReflCmp.compare_self⟩
  | true => exact exists_distinct hmem

/-- No line is put in. -/
theorem Order.mem_of_mem_arranged {unique merges : Bool} {line : List Char}
    (h : line ∈ o.arranged unique merges inputs) : line ∈ inputs.flatten := by
  refine (o.arranged_perm merges inputs).mem_iff.mp ?_
  cases unique with
  | false => exact h
  | true => exact (distinct_sublist _ _).mem h

theorem Order.filter_merge [TransCmp o.compare] (a : List Char) {left right : List (List Char)}
    (hleft : o.Sorted left) (hright : o.Sorted right) :
    (left.merge right o.allows).filter (fun b => o.compare a b = .eq) =
      left.filter (fun b => o.compare a b = .eq) ++ right.filter fun b => o.compare a b = .eq := by
  induction left generalizing right with
  | nil => rw [List.nil_merge, List.filter_nil, List.nil_append]
  | cons x left ih =>
    induction right with
    | nil => rw [List.merge_right, List.filter_nil, List.append_nil]
    | cons y right ihr =>
      rw [List.cons_merge_cons]
      split
      · rw [List.filter_cons, List.filter_cons, ih hleft.of_cons hright]
        split <;> rfl
      · next hnot =>
        have hlt : o.compare y x = .lt := by
          rw [allows_iff, Bool.not_eq_true, Ordering.isLE_eq_false] at hnot
          exact OrientedCmp.lt_of_gt hnot
        rw [List.filter_cons, ihr hright.of_cons, List.filter_cons (x := y)]
        split
        · next hy =>
          -- whatever is in front of a line like this one is greater than it
          have hnone : (x :: left).filter (fun b => o.compare a b = .eq) = [] := by
            refine List.filter_eq_nil_iff.mpr fun z hz => ?_
            have hx : o.compare a x = .lt :=
              TransCmp.lt_of_eq_of_lt (of_decide_eq_true hy) hlt
            have hle : (o.compare x z).isLE := by
              rcases List.mem_cons.mp hz with rfl | hz
              · exact ReflCmp.isLE_rfl
              · exact allows_iff.mp ((List.pairwise_cons.mp hleft).1 z hz)
            rw [TransCmp.lt_of_lt_of_isLE hx hle]
            decide
          rw [hnone]
          rfl
        · rfl

theorem Order.filter_foldl_merge [TransCmp o.compare] (a : List Char) (hlines : o.Sorted lines)
    (hinputs : ∀ input ∈ inputs, o.Sorted input) :
    (inputs.foldl (fun a b => a.merge b o.allows) lines).filter (fun b => o.compare a b = .eq) =
      (lines ++ inputs.flatten).filter fun b => o.compare a b = .eq := by
  induction inputs generalizing lines with
  | nil => rw [List.foldl_nil, List.flatten_nil, List.append_nil]
  | cons input inputs ih =>
    obtain ⟨hinput, hinputs⟩ := List.forall_mem_cons.mp hinputs
    have hmerged := List.pairwise_merge o.allows_trans o.allows_total _ _ hlines hinput
    rw [List.foldl_cons, ih hmerged hinputs, List.filter_append, filter_merge a hlines hinput,
      List.flatten_cons, ← List.append_assoc, List.filter_append, List.filter_append]

/-- Equal lines stay in the order in which they came. -/
theorem Order.filter_arranged (hkeys : ∀ k ∈ o.keys, k.how.general = false) (merges : Bool)
    (hinputs : merges → ∀ input ∈ inputs, disorder (o.isWrong false) 1 input = none)
    (line : List Char) :
    (o.arranged false merges inputs).filter (fun b => o.compare line b = .eq) =
      inputs.flatten.filter fun b => o.compare line b = .eq := by
  have := o.transCmp hkeys
  cases merges with
  | false =>
    have hequal : o.Sorted (inputs.flatten.filter fun b => o.compare line b = .eq) := by
      refine List.pairwise_of_forall_mem_list fun b hb c hc => allows_iff.mpr ?_
      have hb := of_decide_eq_true (List.mem_filter.mp hb).2
      have hc := of_decide_eq_true (List.mem_filter.mp hc).2
      rw [TransCmp.eq_trans (OrientedCmp.eq_symm hb) hc]
      rfl
    have hsublist := (List.sublist_mergeSort o.allows_trans o.allows_total hequal
      List.filter_sublist).filter fun b => o.compare line b = .eq
    rw [List.filter_filter] at hsublist
    simp only [Bool.and_self] at hsublist
    refine (hsublist.eq_of_length ?_).symm
    exact (((o.arranged_perm false inputs).filter _).length_eq).symm
  | true =>
    exact filter_foldl_merge line .nil fun input hinput =>
      passes_iff_sorted.mp (hinputs rfl input hinput)

/-- Lines that pass stay as they are. -/
theorem Order.arranged_of_passes (hkeys : ∀ k ∈ o.keys, k.how.general = false)
    (unique merges : Bool) {n : ℕ} (h : disorder (o.isWrong unique) n lines = none) :
    o.arranged unique merges [lines] = lines := by
  have := o.transCmp hkeys
  have hsorted (hlines : o.Sorted lines) : o.arranged false merges [lines] = lines := by
    cases merges with
    | false =>
      change [lines].flatten.mergeSort o.allows = lines
      rw [List.flatten_singleton]
      exact List.mergeSort_of_pairwise hlines
    | true => exact List.nil_merge lines
  cases unique with
  | false => exact hsorted (passes_iff_sorted.mp h)
  | true =>
    have hascending := passes_iff_ascending.mp h
    have hlines : o.Sorted lines := hascending.imp fun hlt => by
      rw [allows_iff, hlt]
      rfl
    change distinct _ (o.arranged false merges [lines]) = lines
    rw [hsorted hlines]
    exact distinct_of_pairwise hascending

end Arranged

end ReleasePreview.Tools.Sorting
