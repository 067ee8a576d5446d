import ExprTree.Arena.Document
import ExprTree.Proofs.Except

/-!
What is written can be read back, and is then the same: for each type that documents are made of,
from the codecs of its parts.
-/

namespace ExprTree

set_option autoImplicit false

class LawfulCodec (α : Type) [Codec α] : Prop where
  decode_encode : ∀ value : α, decode (encode value) = .ok value

export LawfulCodec (decode_encode)

attribute [simp] LawfulCodec.decode_encode

namespace Document

@[simp]
theorem nat_below_int {bound value : Nat} (small : value < bound) :
    natBelow bound (.int value) = .ok value := by
  have inside : (0 : Int) ≤ value ∧ (value : Int) < bound := by omega
  rw [natBelow, if_pos inside, Int.toNat_natCast]

end Document

instance : LawfulCodec Bool where
  decode_encode _ := rfl

instance : LawfulCodec UInt16 where
  decode_encode value := by
    change (Document.natBelow UInt16.size (.int value.toNat)).map _ = _
    rw [Document.nat_below_int value.toNat_lt, Except.map, UInt16.ofNat_toNat]

instance : LawfulCodec UInt32 where
  decode_encode value := by
    change (Document.natBelow UInt32.size (.int value.toNat)).map _ = _
    rw [Document.nat_below_int value.toNat_lt, Except.map, UInt32.ofNat_toNat]

instance : LawfulCodec UInt64 where
  decode_encode value := by
    change (Document.natBelow UInt64.size (.int value.toNat)).map _ = _
    rw [Document.nat_below_int value.toNat_lt, Except.map, UInt64.ofNat_toNat]

instance : LawfulCodec Int64 where
  decode_encode value := by
    have least := value.minValue_le_toInt
    have greatest := value.toInt_le
    simp only [encode, decode]
    rw [if_pos ⟨least, greatest⟩, Int64.ofInt_toInt]

instance : LawfulCodec String where
  decode_encode _ := rfl

instance : LawfulCodec Char where
  decode_encode value := by
    simp [encode, decode]

instance {α : Type} [Codec α] [LawfulCodec α] : LawfulCodec (List α) where
  decode_encode values := by
    change (values.map encode).mapM decode = .ok values
    rw [map_m_ok_iff, List.forall₂_map_left_iff, List.forall₂_same]
    exact fun value _ => decode_encode value

theorem decode_wrapped {α β : Type} [Codec β] [LawfulCodec β] (wrap : β → α) (value : β) :
    (decode (encode value)).map wrap = .ok (wrap value) := by
  rw [decode_encode, Except.map]

instance {α : Type} [Codec α] [LawfulCodec α] : LawfulCodec (ListTable α) where
  decode_encode table :=
    bind_ok_iff.2 ⟨table.entries.toList, decode_encode table.entries.toList, rfl⟩

instance : LawfulCodec NodeId where
  decode_encode id := decode_wrapped NodeId.mk id.raw

instance : LawfulCodec MemberId where
  decode_encode id := decode_wrapped MemberId.mk id.raw

instance : LawfulCodec MethodId where
  decode_encode id := decode_wrapped MethodId.mk id.raw

instance : LawfulCodec CtorId where
  decode_encode id := decode_wrapped CtorId.mk id.raw

instance : LawfulCodec TypeId where
  decode_encode type := decode_wrapped TypeId.mk type.raw

instance : LawfulCodec Name where
  decode_encode name := decode_wrapped Name.mk name.raw

/-- What is not there is written as null, so what is there must not be. -/
theorem decode_option {α : Type} [Codec α] [LawfulCodec α]
    (filled : ∀ item : α, encode item ≠ .null) (value : Option α) :
    decode (encode value) = .ok value := by
  cases value with
  | none => rfl
  | some item =>
      have read := decode_encode item
      have written : encode (some item) = encode item := rfl
      rw [written]
      cases document : encode item with
      | null => exact absurd document (filled item)
      | _ =>
          rw [document] at read
          simp only [decode] at read ⊢
          rw [read]
          rfl

instance : LawfulCodec (Option MethodId) where
  decode_encode := decode_option nofun

instance : LawfulCodec (Option CtorId) where
  decode_encode := decode_option nofun

namespace Fields

variable {α β : Type} [Codec α] [LawfulCodec α] {fields : Fields} {name : String} {value : α}

theorem read_optional_of_lookup (found : fields.lookup name = some (encode value)) :
    fields.read? name = .ok (some value) := by
  simp only [read?, found, decode_encode]
  rfl

theorem read_of_lookup (found : fields.lookup name = some (encode value)) :
    fields.read name = .ok value := by
  rw [read, read_optional_of_lookup found]
  rfl

theorem bind_read {next : α → Except DecodeError β} {result : β} (value : α)
    (found : fields.lookup name = some (encode value)) (continued : next value = .ok result) :
    (fields.read name >>= next) = .ok result :=
  bind_ok_iff.2 ⟨value, read_of_lookup found, continued⟩

end Fields

instance {α : Type} : LawfulCodec (Span α) where
  decode_encode span := by
    rw [encode, decode, instCodecSpan]
    exact Fields.bind_read span.start rfl (Fields.bind_read span.length rfl rfl)

instance : LawfulCodec OperatorInfo where
  decode_encode info := by
    rw [encode, decode, instCodecOperatorInfo]
    simp only [Document.readFields]
    apply bind_ok_iff.2
    refine ⟨some info.method, Fields.read_optional_of_lookup rfl, ?_⟩
    exact Fields.bind_read info.lifted rfl (Fields.bind_read info.liftedToNull rfl rfl)

instance : LawfulCodec BinaryOp where
  decode_encode op := by
    apply bind_ok_iff.2
    refine ⟨(op.name, none), rfl, bind_ok_iff.2 ⟨(), rfl, ?_⟩⟩
    simp only [BinaryOp.of_name_name]

instance : LawfulCodec UnaryOp where
  decode_encode op := by
    apply bind_ok_iff.2
    refine ⟨(op.name, none), rfl, bind_ok_iff.2 ⟨(), rfl, ?_⟩⟩
    simp only [UnaryOp.of_name_name]

theorem Document.decode_alternative {α β : Type} [Codec α] [LawfulCodec α] (tag : String)
    (value : α) {next : String × Option Document → Except DecodeError β} {wrap : α → β}
    (reads : next (tag, some (encode value)) =
      content (some (encode value)) >>= fun value => pure (wrap value)) :
    ((tagged tag (encode value)).alternative >>= next) = .ok (wrap value) := by
  refine bind_ok_iff.2 ⟨(tag, some (encode value)), rfl, ?_⟩
  rw [reads]
  exact bind_ok_iff.2 ⟨value, decode_encode value, rfl⟩

instance : LawfulCodec ConstValue where
  decode_encode value := by
    cases value with
    | null => rfl
    | bool value => exact Document.decode_alternative "Bool" value rfl
    | int value => exact Document.decode_alternative "Int" value rfl
    | float bits => exact Document.decode_alternative "Float" bits rfl
    | char value => exact Document.decode_alternative "Char" value rfl
    | text name => exact Document.decode_alternative "Str" name rfl

namespace ExprKind

theorem decode_of_fields {kind : ExprKind} {fields : Fields} (tag : String)
    (written : encode kind = .tagged tag (.record fields)) (other : tag ≠ "Constant")
    (read : decodeFields tag fields = .ok kind) : decode (encode kind) = .ok kind := by
  rw [written, decode, instCodecExprKind]
  refine bind_ok_iff.2 ⟨(tag, some (.record fields)), rfl, ?_⟩
  simp only
  exact bind_ok_iff.2 ⟨fields, rfl, read⟩

end ExprKind

open ExprKind Fields in
instance : LawfulCodec ExprKind where
  decode_encode kind := by
    cases kind with
    | constant value =>
        exact Document.decode_alternative "Constant" value rfl
    | memberAccess target member =>
        apply decode_of_fields "MemberAccess" rfl (by decide)
        exact bind_read target rfl (bind_read member rfl rfl)
    | methodCall target method args =>
        apply decode_of_fields "MethodCall" rfl (by decide)
        exact bind_read target rfl (bind_read method rfl (bind_read args rfl rfl))
    | parameter name =>
        apply decode_of_fields "Parameter" rfl (by decide)
        exact bind_read name rfl rfl
    | typeIs operand tested =>
        apply decode_of_fields "TypeIs" rfl (by decide)
        exact bind_read operand rfl (bind_read tested rfl rfl)
    | binary op left right info =>
        apply decode_of_fields "Binary" rfl (by decide)
        exact bind_read op rfl (bind_read left rfl (bind_read right rfl (bind_read info rfl rfl)))
    | unary op operand info =>
        apply decode_of_fields "Unary" rfl (by decide)
        exact bind_read op rfl (bind_read operand rfl (bind_read info rfl rfl))
    | new ctor args members =>
        apply decode_of_fields "New" rfl (by decide)
        apply bind_ok_iff.2
        refine ⟨some ctor, read_optional_of_lookup rfl, ?_⟩
        exact bind_read args rfl (bind_read members rfl rfl)
    | conditional test ifTrue ifFalse =>
        apply decode_of_fields "Conditional" rfl (by decide)
        exact bind_read test rfl (bind_read ifTrue rfl (bind_read ifFalse rfl rfl))
    | invoke callee args =>
        apply decode_of_fields "Invoke" rfl (by decide)
        exact bind_read callee rfl (bind_read args rfl rfl)
    | lambda body params =>
        apply decode_of_fields "Lambda" rfl (by decide)
        exact bind_read body rfl (bind_read params rfl rfl)
    | newArrayInit elements =>
        apply decode_of_fields "NewArrayInit" rfl (by decide)
        exact bind_read elements rfl rfl
    | newArrayBounds bounds =>
        apply decode_of_fields "NewArrayBounds" rfl (by decide)
        exact bind_read bounds rfl rfl

end ExprTree
