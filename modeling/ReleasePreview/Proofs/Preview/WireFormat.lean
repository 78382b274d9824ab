import ReleasePreview.Preview.Json
import ReleasePreview.Proofs.Json.Decoding
import ReleasePreview.Proofs.NameMap
import ReleasePreview.Proofs.Package.Name
import ReleasePreview.Proofs.Package.Version
import ReleasePreview.Source.Summary

/-!
Everything that is written as JSON is read back from its texts. A record is read because each of
its members fills a field, the names of the fields differ, and the values build the record again.
-/
namespace ReleasePreview

open Json

theorem Version.reads (v : Version) : decode.Reads v.toJson v := .parsed v.parse_text

theorem PackageName.reads (p : PackageName) : decode.Reads p.toJson p := .parsed p.parse_text

section Documentation

theorem DocConstructor.reads (c : DocConstructor) : decode.Reads c.toJson c :=
  (Decoder.Reads.pair (.string c.name) (.strings c.args)).bind rfl

theorem DocUnion.reads (u : DocUnion) : decode.Reads u.toJson u :=
  .record (.given (.string _) <| .given (.string _) <| .given (.strings _) <|
    .given (.list fun c _ => c.reads) .nil) (by decide) rfl

theorem DocAlias.reads (a : DocAlias) : decode.Reads a.toJson a :=
  .record (.given (.string _) <| .given (.string _) <| .given (.strings _) <|
    .given (.string _) .nil) (by decide) rfl

theorem DocValue.reads (v : DocValue) : decode.Reads v.toJson v :=
  .record (.given (.string _) <| .given (.string _) <| .given (.string _) .nil) (by decide) rfl

theorem Associativity.reads (a : Associativity) : decode.Reads a.toJson a :=
  .choice (by cases a <;> rfl)

theorem DocOperator.precedence_reads (n : UInt8) :
    decodePrecedence.Reads (.number (.natural n.toNat)) n := by
  have hlt := n.toNat_lt
  have hint : Decoder.Reads (.integer 0 255 "u8") (.number (.natural n.toNat)) (n.toNat : Int) :=
    .natural "u8" (by rw [Number.maxNatural]; omega) (by omega) (by omega)
  refine hint.bind ?_
  rw [Int.toNat_natCast, UInt8.ofNat_toNat]
  rfl

theorem DocOperator.reads (o : DocOperator) : decode.Reads o.toJson o :=
  .record (.given (.string _) <| .given (.string _) <| .given (.string _) <|
    .given (Associativity.reads _) <| .given (precedence_reads _) .nil) (by decide) rfl

theorem DocModule.reads (m : DocModule) : decode.Reads m.toJson m :=
  .record (.given (.string _) <| .given (.string _) <| .given (.list fun u _ => u.reads) <|
    .given (.list fun a _ => a.reads) <| .given (.list fun v _ => v.reads) <|
    .given (.list fun o _ => o.reads) .nil) (by decide) rfl

theorem Docs.reads (docs : Docs) : Decoder.Reads decode (toJson docs) docs :=
  .list fun m _ => m.reads

end Documentation

section Report

theorem Magnitude.reads (m : Magnitude) : decode.Reads m.toJson m := .choice (by cases m <;> rfl)

theorem ModuleReport.reads (m : ModuleReport) : decode.Reads m.toJson m :=
  .record (.given (.string _) <| .given (.strings _) <| .given (.strings _) <|
    .given (.strings _) .nil) (by decide) rfl

theorem ApiReport.reads (r : ApiReport) : decode.Reads r.toJson r :=
  .record (.given (Magnitude.reads _) <| .given (.strings _) <| .given (.strings _) <|
    .given (.list fun m _ => m.reads) .nil) (by decide) rfl

end Report

section ContentChanges

theorem NameMap.reads {α : Type} {d : Decoder α} {f : α → Json} (h : ∀ a, d.Reads (f a) a)
    (m : NameMap α) : (decode d).Reads (m.toJson f) m :=
  (Decoder.Reads.members (f := f) fun e _ => h e.2).bind (by rw [m.ofList_toList]; rfl)

theorem LineKind.reads (k : LineKind) : decode.Reads k.toJson k := by
  cases k with
  | removed => exact ⟨.number (by decide), rfl⟩
  | context => exact ⟨.number (by decide), rfl⟩
  | added => exact ⟨.number (by decide), rfl⟩

theorem DiffLine.reads (l : DiffLine) : decode.Reads l.toJson l :=
  (Decoder.Reads.pair (LineKind.reads _) (.string l.text)).bind rfl

theorem DiffLine.list_reads (ls : List DiffLine) :
    Decoder.Reads (.list decode) (listToJson ls) ls :=
  .list fun l _ => l.reads

theorem ItemDiff.reads (d : ItemDiff) : decode.Reads d.toJson d := by
  rw [toJson, ← List.append_nil (_ ++ _), List.append_assoc]
  exact .record (.present DiffLine.list_reads nofun _ <|
    .present Decoder.Reads.string nofun _ .nil) (by decide) rfl

theorem ModuleDiff.reads (d : ModuleDiff) : decode.Reads d.toJson d :=
  .record (.given (NameMap.reads ItemDiff.reads _) .nil) (by decide) rfl

theorem ContentDiff.reads (d : ContentDiff) : decode.Reads d.toJson d := by
  rw [toJson, ← List.append_nil (present _ _)]
  exact .record (.given (NameMap.reads ModuleDiff.reads _) <|
    .present DiffLine.list_reads nofun _ .nil) (by decide) rfl

end ContentChanges

theorem Update.orNull_reads {α : Type} {d : Decoder α} {f : α → Json} (h : ∀ a, d.Reads (f a) a)
    (hf : ∀ a, f a ≠ .null) (o : Option α) : Decoder.Reads (.nullable d) (orNull f o) o := by
  cases o with
  | none => exact .nullable_none
  | some a => exact .nullable_some (h a) (hf a)

theorem Update.reads (u : Update) : decode.Reads u.toJson u :=
  .record (.given (orNull_reads PackageName.reads nofun _) <|
    .given (orNull_reads Version.reads nofun _) <| .given (orNull_reads Version.reads nofun _) <|
    .given (Docs.reads _) <| .given (orNull_reads Decoder.Reads.string nofun _) <|
    .given (orNull_reads ApiReport.reads nofun _) <|
    .given (orNull_reads ContentDiff.reads nofun _) .nil) (by decide) rfl

theorem SourceSummary.priority_reads (n : UInt64) :
    decodePriority.Reads (.number (.natural n.toNat)) n := by
  have hlt := n.toNat_lt
  have hmax : n.toNat ≤ Number.maxNatural := by rw [Number.maxNatural]; omega
  have hint : Decoder.Reads (.integer 0 Number.maxNatural "usize") (.number (.natural n.toNat))
      (n.toNat : Int) :=
    .natural "usize" hmax (by omega) (by exact_mod_cast hmax)
  refine hint.bind ?_
  rw [Int.toNat_natCast, UInt64.ofNat_toNat]
  rfl

theorem SourceSummary.reads (s : SourceSummary) : decode.Reads s.toJson s :=
  .record (.given (.string _) <| .given (.string _) <| .given (priority_reads _) .nil)
    (by decide) rfl

/-- Every value of the JSON interface is read back from each of its texts as it was. -/
theorem wireFormat_roundTrips :
    RoundTrips Docs.toJson Docs.decode ∧
    RoundTrips DocModule.toJson DocModule.decode ∧
    RoundTrips DocUnion.toJson DocUnion.decode ∧
    RoundTrips DocConstructor.toJson DocConstructor.decode ∧
    RoundTrips DocAlias.toJson DocAlias.decode ∧
    RoundTrips DocValue.toJson DocValue.decode ∧
    RoundTrips DocOperator.toJson DocOperator.decode ∧
    RoundTrips Associativity.toJson Associativity.decode ∧
    RoundTrips ApiReport.toJson ApiReport.decode ∧
    RoundTrips ModuleReport.toJson ModuleReport.decode ∧
    RoundTrips Magnitude.toJson Magnitude.decode ∧
    RoundTrips ContentDiff.toJson ContentDiff.decode ∧
    RoundTrips ModuleDiff.toJson ModuleDiff.decode ∧
    RoundTrips ItemDiff.toJson ItemDiff.decode ∧
    RoundTrips DiffLine.toJson DiffLine.decode ∧
    RoundTrips LineKind.toJson LineKind.decode ∧
    RoundTrips Version.toJson Version.decode ∧
    RoundTrips PackageName.toJson PackageName.decode ∧
    RoundTrips Update.toJson Update.decode ∧
    RoundTrips SourceSummary.toJson SourceSummary.decode :=
  ⟨.of_reads Docs.reads, .of_reads DocModule.reads, .of_reads DocUnion.reads,
    .of_reads DocConstructor.reads, .of_reads DocAlias.reads, .of_reads DocValue.reads,
    .of_reads DocOperator.reads, .of_reads Associativity.reads, .of_reads ApiReport.reads,
    .of_reads ModuleReport.reads, .of_reads Magnitude.reads, .of_reads ContentDiff.reads,
    .of_reads ModuleDiff.reads, .of_reads ItemDiff.reads, .of_reads DiffLine.reads,
    .of_reads LineKind.reads, .of_reads Version.reads, .of_reads PackageName.reads,
    .of_reads Update.reads, .of_reads SourceSummary.reads⟩

end ReleasePreview
