import ReleasePreview.NameMap
import ReleasePreview.LineDiff.Basic

/-! The changes to what a package says about itself: comments, declarations and the readme. -/
namespace ReleasePreview

/-- The changes to one declaration. -/
structure ItemDiff where
  comment : Option (List DiffLine) := none
  /-- The published declaration, where its signature is another one. -/
  oldAnnotation : Option String := none
deriving Repr, DecidableEq

def ItemDiff.isEmpty (d : ItemDiff) : Bool := d.comment.isNone && d.oldAnnotation.isNone

/-- The changes to the declarations of one module. -/
structure ModuleDiff where
  items : NameMap ItemDiff := {}
deriving Repr, DecidableEq

def ModuleDiff.isEmpty (d : ModuleDiff) : Bool := d.items.isEmpty

structure ContentDiff where
  modules : NameMap ModuleDiff := {}
  readme : Option (List DiffLine) := none
deriving Repr, DecidableEq

def ContentDiff.isEmpty (d : ContentDiff) : Bool := d.modules.isEmpty && d.readme.isNone

end ReleasePreview
