import Mathlib.Data.List.Forall2
import ReleasePreview.Json.Record
import ReleasePreview.Proofs.Json.Complete

/-! What decoders accept, for each way of making a decoder out of others. -/
namespace ReleasePreview.Json

@[simp] theorem checked_ok {α : Type} (a : α) : checked (.ok a) = .ok a := rfl

@[simp] theorem ok_bind {ε α β : Type} (a : α) (f : α → Except ε β) :
    ((.ok a : Except ε α) >>= f) = f a := rfl

section Results

variable {ε α β : Type}

theorem bind_eq_ok {x : Except ε α} {f : α → Except ε β} {b : β} :
    x >>= f = .ok b ↔ ∃ a, x = .ok a ∧ f a = .ok b := by
  cases x <;> simp [bind, Except.bind]

theorem pure_eq_ok {a b : α} : (pure a : Except ε α) = .ok b ↔ a = b :=
  Except.ok.injEq a b ▸ Iff.rfl

theorem throw_ne_ok {e : ε} {a : α} : (throw e : Except ε α) ≠ .ok a := nofun

theorem ite_eq_ok {p : Prop} [Decidable p] {a b : α} {e : ε} :
    (if p then .ok a else .error e) = Except.ok b ↔ p ∧ a = b := by
  split <;> simp [*]

theorem map_eq_ok {x : Except ε α} {f : α → β} {b : β} :
    x.map f = .ok b ↔ ∃ a, x = .ok a ∧ f a = b := by
  cases x <;> simp [Except.map]

theorem mapM_eq_ok {f : α → Except ε β} {as : List α} {bs : List β} :
    as.mapM f = .ok bs ↔ List.Forall₂ (fun a b => f a = .ok b) as bs := by
  induction as generalizing bs with
  | nil => rw [List.mapM_nil, pure_eq_ok, List.forall₂_nil_left_iff, eq_comm]
  | cons a as ih =>
    rw [List.mapM_cons, List.forall₂_cons_left_iff]
    simp only [bind_eq_ok, pure_eq_ok, ih]
    constructor
    · rintro ⟨b, hb, bs, hbs, rfl⟩
      exact ⟨b, bs, hb, hbs, rfl⟩
    · rintro ⟨b, bs, hb, hbs, rfl⟩
      exact ⟨b, hb, bs, hbs, rfl⟩

theorem bind_eq_error {x : Except ε α} {f : α → Except ε β} {e : ε} :
    x >>= f = .error e ↔ x = .error e ∨ ∃ a, x = .ok a ∧ f a = .error e := by
  cases x <;> simp [bind, Except.bind]

theorem pure_ne_error {a : α} {e : ε} : (pure a : Except ε α) ≠ .error e := nofun

theorem map_eq_error {x : Except ε α} {f : α → β} {e : ε} : x.map f = .error e ↔ x = .error e := by
  cases x <;> simp [Except.map]

theorem mapError_eq_ok {x : Except ε α} {f : ε → β} {a : α} : x.mapError f = .ok a ↔ x = .ok a := by
  cases x <;> simp [Except.mapError]

theorem mapError_eq_error {x : Except ε α} {f : ε → β} {e' : β} :
    x.mapError f = .error e' ↔ ∃ e, x = .error e ∧ f e = e' := by
  cases x <;> simp [Except.mapError]

/-- Conditions for results and for errors are exact as soon as one of them is met. -/
theorem eq_iff_of_total {x : Except ε α} {Ok : α → Prop} {Error : ε → Prop}
    (hok : ∀ a, Ok a → x = .ok a) (herror : ∀ e, Error e → x = .error e)
    (htotal : (∃ a, Ok a) ∨ ∃ e, Error e) :
    (∀ a, x = .ok a ↔ Ok a) ∧ ∀ e, x = .error e ↔ Error e := by
  rcases htotal with ⟨a, ha⟩ | ⟨e, he⟩
  · obtain rfl := hok a ha
    exact ⟨fun b => ⟨fun hb => Except.ok.inj hb ▸ ha, hok b⟩, fun e => ⟨nofun, herror e⟩⟩
  · obtain rfl := herror e he
    exact ⟨fun a => ⟨nofun, hok a⟩, fun e' => ⟨fun he' => Except.error.inj he' ▸ he, herror e'⟩⟩

theorem checked_eq_ok {r : Except SyntaxError α} {a : α} : checked r = .ok a ↔ r = .ok a := by
  cases r <;> simp [checked, Except.mapError]

theorem require_eq_ok {e : Option SyntaxError} {u : Unit} : require e = .ok u ↔ e = none := by
  cases e <;> simp [require]

theorem listError?_eq_none {closing : Closing} : closing.listError? = none ↔ closing = .closed := by
  cases closing <;> simp [Closing.listError?]

theorem objectError?_eq_none {closing : Closing} :
    closing.objectError? = none ↔ closing = .closed := by
  cases closing <;> simp [Closing.objectError?]

theorem surplusError?_eq_none {closing : Closing} :
    closing.surplusError? = none ↔ closing = .closed := by
  cases closing <;> simp [Closing.surplusError?]

theorem mismatch_ne_ok {expected : String} {node : Node} {a : α} :
    mismatch expected node ≠ .ok a := by
  simp [mismatch, bind_eq_ok, throw_ne_ok]

end Results

namespace Decoder

variable {α β : Type} {d : Decoder α} {node : Node}

theorem string_eq_ok {s : String} : string node = .ok s ↔ node = .string (.ok s) := by
  cases node <;> simp [string, mismatch_ne_ok, checked_eq_ok]

theorem list_list_eq_ok {items : List Node} {closing : Closing} {as : List α} :
    list d (.list items closing) = .ok as ↔
      closing = .closed ∧ List.Forall₂ (fun node a => d node = .ok a) items as := by
  simp only [list, bind_eq_ok, mapM_eq_ok, checked_eq_ok, require_eq_ok, listError?_eq_none,
    pure_eq_ok]
  constructor
  · rintro ⟨as, has, -, hclosing, rfl⟩
    exact ⟨hclosing, has⟩
  · rintro ⟨hclosing, has⟩
    exact ⟨as, has, (), hclosing, rfl⟩

theorem list_eq_ok {as : List α} : list d node = .ok as ↔
    ∃ items, node = .list items .closed ∧ List.Forall₂ (fun node a => d node = .ok a) items as := by
  cases node with
  | list items closing =>
    rw [list_list_eq_ok]
    constructor
    · rintro ⟨rfl, has⟩
      exact ⟨items, rfl, has⟩
    · rintro ⟨_, ⟨⟩, has⟩
      exact ⟨rfl, has⟩
  | _ => simp [list, mismatch_ne_ok]

theorem members_eq_ok {es : List (String × α)} : members d node = .ok es ↔
    ∃ ms, node = .object ms .closed ∧
      List.Forall₂ (fun m e => m.1 = .ok e.1 ∧ d m.2 = .ok e.2) ms es := by
  cases node with
  | object ms closing =>
    have hmember : ∀ (m : Member) (e : String × α),
        (do return (← checked m.1, ← d m.2) : Except DecodeError (String × α)) = .ok e ↔
          m.1 = .ok e.1 ∧ d m.2 = .ok e.2 := by
      rintro m ⟨name, a⟩
      simp only [bind_eq_ok, checked_eq_ok, pure_eq_ok]
      constructor
      · rintro ⟨_, hname, _, ha, ⟨⟩⟩
        exact ⟨hname, ha⟩
      · rintro ⟨hname, ha⟩
        exact ⟨name, hname, a, ha, rfl⟩
    simp only [members, bind_eq_ok, mapM_eq_ok, hmember, checked_eq_ok, require_eq_ok,
      objectError?_eq_none, pure_eq_ok]
    constructor
    · rintro ⟨es, hes, -, rfl, rfl⟩
      exact ⟨ms, rfl, hes⟩
    · rintro ⟨_, ⟨⟩, hes⟩
      exact ⟨es, hes, (), rfl, rfl⟩
  | _ => simp [members, mismatch_ne_ok]

theorem finish_eq_ok {items : List Node} {closing : Closing} {u : Unit} :
    finish items closing = .ok u ↔ items = [] ∧ closing = .closed := by
  cases items <;>
    simp [finish, checked_eq_ok, require_eq_ok, surplusError?_eq_none]

theorem pair_eq_ok {e : Decoder β} {a : α} {b : β} : pair d e node = .ok (a, b) ↔
    ∃ first second, node = .list [first, second] .closed ∧ d first = .ok a ∧ e second = .ok b := by
  cases node with
  | list items closing =>
    match items with
    | [] | [first] => simp [pair, next?, bind_eq_ok, throw_ne_ok]
    | first :: second :: items =>
      simp only [pair, next?, ok_bind, bind_eq_ok, pure_eq_ok, finish_eq_ok]
      constructor
      · rintro ⟨a, ha, b, hb, -, ⟨rfl, rfl⟩, ⟨⟩⟩
        exact ⟨first, second, rfl, ha, hb⟩
      · rintro ⟨_, _, ⟨⟩, ha, hb⟩
        exact ⟨a, ha, b, hb, (), ⟨rfl, rfl⟩, rfl⟩
  | _ => simp [pair, mismatch_ne_ok]

theorem integer_eq_ok {lo hi i : Int} {what : String} : integer lo hi what node = .ok i ↔
    lo ≤ i ∧ i ≤ hi ∧ ((∃ n : Nat, node = .number (.ok (.natural n)) ∧ i = n) ∨
      ∃ n : Nat, node = .number (.ok (.negative n)) ∧ i = -n) := by
  have hwithin : ∀ n : Int, (if lo ≤ n ∧ n ≤ hi then Except.ok n
      else .error (DecodeError.wrongInteger n what)) = .ok i ↔ lo ≤ i ∧ i ≤ hi ∧ i = n := by
    intro n
    rw [ite_eq_ok, and_assoc]
    constructor
    · rintro ⟨hlo, hhi, rfl⟩
      exact ⟨hlo, hhi, rfl⟩
    · rintro ⟨hlo, hhi, rfl⟩
      exact ⟨hlo, hhi, rfl⟩
  cases node with
  | number value =>
    cases value with
    | error e => simp [integer, bind_eq_ok, checked_eq_ok]
    | ok n => cases n <;> simp [integer, hwithin, throw_ne_ok]
  | _ => simp [integer, mismatch_ne_ok]

theorem variant_eq_ok {choices : List (String × α)} {name : String} {v : α} :
    variant choices name = .ok v ↔ choices.lookup name = some v := by
  rw [variant]
  cases choices.lookup name <;> simp

theorem unit_eq_ok {node : Node} {u : Unit} : unit node = .ok u ↔ node = .null := by
  cases node <;> simp [unit, mismatch_ne_ok]

theorem choice_object_eq_ok {choices : List (String × α)} {ms : List Member} {closing : Closing}
    {v : α} : choice choices (.object ms closing) = .ok v ↔
      closing = .closed ∧ ∃ name, ms = [(.ok name, .null)] ∧ choices.lookup name = some v := by
  match ms with
  | [] => simp [choice]
  | (name?, node) :: ms =>
    simp only [choice, bind_eq_ok, variant_eq_ok, checked_eq_ok, unit_eq_ok]
    constructor
    · rintro ⟨name, rfl, v, hv, -, rfl, hend⟩
      split at hend
      · cases hend
        exact ⟨rfl, name, rfl, hv⟩
      · contradiction
      · contradiction
    · rintro ⟨rfl, name, ⟨⟩, hv⟩
      exact ⟨name, rfl, v, hv, (), rfl, rfl⟩

end Decoder

section Literals

variable {l : Literal} {n : Nat}

/-- A natural number is written in digits alone. -/
theorem value_eq_natural : l.value = .ok (.natural n) ↔ l.negative = false ∧ l.fraction = none ∧
    l.exponent = none ∧ Decimal.naturalValue l.whole = n ∧ n ≤ Number.maxNatural := by
  simp only [Literal.value, Bool.and_eq_true, Option.isNone_iff_eq_none, Bool.not_eq_true',
    decide_eq_true_eq]
  split
  next h =>
    rw [pure_eq_ok, Number.natural.injEq]
    constructor
    · rintro rfl
      exact ⟨h.1.2, h.1.1.1, h.1.1.2, rfl, h.2⟩
    · exact fun h => h.2.2.2.1
  next h =>
    refine iff_of_false ?_ ?_
    · split
      · rw [pure_eq_ok]
        exact Number.noConfusion
      · rw [bind_eq_ok]
        rintro ⟨x, -, ⟨⟩⟩
    · rintro ⟨hnegative, hfraction, hexponent, hn, hle⟩
      exact h ⟨⟨⟨hfraction, hexponent⟩, hnegative⟩, hn ▸ hle⟩

theorem pos_of_value_eq_negative (h : l.value = .ok (.negative n)) : 0 < n := by
  simp only [Literal.value, Bool.and_eq_true, Option.isNone_iff_eq_none, Bool.not_eq_true',
    decide_eq_true_eq] at h
  split at h
  · cases pure_eq_ok.mp h
  · split at h
    next hn =>
      obtain rfl := Number.negative.inj (pure_eq_ok.mp h)
      exact hn.1.2
    · obtain ⟨x, -, ⟨⟩⟩ := bind_eq_ok.mp h

end Literals

/-- A text with nothing behind its value is decoded as its value. -/
theorem decodeText_of_document {α : Type} (d : Decoder α) {s : String} {root : Node}
    (h : document s.toList = ⟨root, false⟩) : decodeText d s = d root := by
  rw [decodeText, h]
  cases d root <;> rfl

/-- A text is decoded if its value is, and there is nothing behind it. -/
theorem decodeText_eq_ok {α : Type} {d : Decoder α} {s : String} {a : α} :
    decodeText d s = .ok a ↔ ∃ root, document s.toList = ⟨root, false⟩ ∧ d root = .ok a := by
  unfold decodeText
  obtain ⟨root, trailing⟩ := document s.toList
  constructor
  · intro h
    obtain ⟨b, hb, hend⟩ := bind_eq_ok.mp h
    cases trailing with
    | true => contradiction
    | false => exact ⟨root, rfl, hb.trans hend⟩
  · rintro ⟨root', heq, ha⟩
    obtain ⟨rfl, rfl⟩ := Document.mk.inj heq
    exact bind_eq_ok.mpr ⟨a, ha, rfl⟩

section Stands

variable {α : Type}

/-- A string that is a text. -/
def Node.IsString (node : Node) (s : String) : Prop := node = .string (.ok s)

/-- A list whose elements stand for values. -/
def Node.IsList (stands : Node → α → Prop) (node : Node) (as : List α) : Prop :=
  ∃ items, node = .list items .closed ∧ List.Forall₂ stands items as

/-- An object whose members stand for a value. -/
def Node.IsObject (stands : List Member → α → Prop) (node : Node) (a : α) : Prop :=
  ∃ ms, node = .object ms .closed ∧ stands ms a

theorem forall₂_congr {β : Type} {R S : α → β → Prop} {as : List α} {bs : List β}
    (h : ∀ a ∈ as, ∀ b, R a b ↔ S a b) : List.Forall₂ R as bs ↔ List.Forall₂ S as bs := by
  induction as generalizing bs with
  | nil => rw [List.forall₂_nil_left_iff, List.forall₂_nil_left_iff]
  | cons a as ih =>
    obtain ⟨ha, has⟩ := List.forall_mem_cons.mp h
    simp only [List.forall₂_cons_left_iff, ha, ih has]

theorem Decoder.list_eq_ok_of_stands {d : Decoder α} {stands : Node → α → Prop} {node : Node}
    {as : List α}
    (h : ∀ items, node = .list items .closed →
      ∀ item ∈ items, ∀ a, d item = .ok a ↔ stands item a) :
    Decoder.list d node = .ok as ↔ node.IsList stands as := by
  rw [Decoder.list_eq_ok, Node.IsList]
  exact exists_congr fun items => and_congr_right fun hnode => forall₂_congr (h items hnode)

theorem Decoder.strings_eq_ok {node : Node} {ss : List String} :
    Decoder.list .string node = .ok ss ↔ node.IsList Node.IsString ss :=
  Decoder.list_eq_ok_of_stands fun _ _ _ _ _ => Decoder.string_eq_ok

end Stands

end ReleasePreview.Json
