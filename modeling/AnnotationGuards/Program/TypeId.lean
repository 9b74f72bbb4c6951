import AnnotationGuards.Program.Primitive

/-! # Type identity

Types are nominal: a type is the number under which a registry holds it. The
first numbers belong to the types that every registry starts with.
-/

namespace AnnotationGuards

/-- The identity of a type: its position in the registry. -/
structure TypeId where
  val : UInt32
  deriving DecidableEq, Repr, Inhabited

namespace TypeId

/-- The position as a natural number. -/
def toNat (t : TypeId) : Nat := t.val.toNat

/-- The identity of the type at a position. -/
def ofNat (n : Nat) : TypeId := ⟨UInt32.ofNat n⟩

@[simp] theorem ofNat_toNat (t : TypeId) : ofNat t.toNat = t := by
  simp [ofNat, toNat]

/-- The text of an identity, as error messages show it. -/
def text (t : TypeId) : String := "TypeId(" ++ toString t.toNat ++ ")"

/-! ## The built-in types -/

def void : TypeId := ⟨0⟩
def boolean : TypeId := ⟨1⟩
def byte : TypeId := ⟨2⟩
def short : TypeId := ⟨3⟩
def char : TypeId := ⟨4⟩
def int : TypeId := ⟨5⟩
def long : TypeId := ⟨6⟩
def float : TypeId := ⟨7⟩
def double : TypeId := ⟨8⟩
/-- The top of the class hierarchy. -/
def object : TypeId := ⟨9⟩
def booleanBox : TypeId := ⟨10⟩
def byteBox : TypeId := ⟨11⟩
def shortBox : TypeId := ⟨12⟩
def charBox : TypeId := ⟨13⟩
def intBox : TypeId := ⟨14⟩
def longBox : TypeId := ⟨15⟩
def floatBox : TypeId := ⟨16⟩
def doubleBox : TypeId := ⟨17⟩
def number : TypeId := ⟨18⟩
def charSequence : TypeId := ⟨19⟩
def string : TypeId := ⟨20⟩
def iterable : TypeId := ⟨21⟩
def collection : TypeId := ⟨22⟩
def list : TypeId := ⟨23⟩
/-- A constructor parameter of this type receives the target's raw class. -/
def rawClass : TypeId := ⟨24⟩
/-- A constructor parameter of this type receives the target's generic type. -/
def typeToken : TypeId := ⟨25⟩
/-- The capability that every guard handler class has as a supertype. -/
def guardHandler : TypeId := ⟨26⟩
def retention : TypeId := ⟨27⟩
def target : TypeId := ⟨28⟩
def documented : TypeId := ⟨29⟩
def inherited : TypeId := ⟨30⟩
def repeatable : TypeId := ⟨31⟩
/-- The marker that makes an annotation type a guard. -/
def guardMarker : TypeId := ⟨32⟩
/-- Marks a parameter or member whose values must never be shown. -/
def sensitive : TypeId := ⟨33⟩

/-- The meta-annotations of the language itself, which say nothing about guards. -/
def languageMetas : List TypeId :=
  [retention, target, documented, inherited, repeatable]

/-- Whether the type is a meta-annotation of the language itself. -/
def isLanguageMeta (t : TypeId) : Bool := languageMetas.contains t

end TypeId

namespace Primitive

/-- The built-in identity of a primitive. -/
def typeId : Primitive → TypeId
  | .boolean => .boolean
  | .byte => .byte
  | .short => .short
  | .char => .char
  | .int => .int
  | .long => .long
  | .float => .float
  | .double => .double

/-- The wrapper class of a primitive. -/
def box : Primitive → TypeId
  | .boolean => .booleanBox
  | .byte => .byteBox
  | .short => .shortBox
  | .char => .charBox
  | .int => .intBox
  | .long => .longBox
  | .float => .floatBox
  | .double => .doubleBox

/-- The primitive whose wrapper class has this identity. -/
def ofBox? (t : TypeId) : Option Primitive := all.find? (·.box = t)

theorem ofBox?_box (p : Primitive) : ofBox? p.box = some p := by
  cases p <;> decide

end Primitive

end AnnotationGuards
