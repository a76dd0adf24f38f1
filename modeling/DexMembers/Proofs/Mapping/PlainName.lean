import DexMembers.Mapping.Block
import DexMembers.Mapping.Line
import DexMembers.Proofs.Mapping.WrittenType

/-!
# Names that a mapping file can hold

The format has no quoting: a name is written as it is, so it must not hold a blank or a character
that means something in a line.
-/

set_option autoImplicit false

namespace DexMembers

def lineMarks : List Char := "()[].,:/#".toList

/-- A character that stands for itself everywhere in a line: every letter and digit does, and so do
`_`, `$`, `-`, `<` and `>`. -/
def isPlain (c : Char) : Bool :=
  !Text.isBlank c && !lineMarks.contains c

def PlainName (name : String) : Prop :=
  name ≠ "" ∧ ∀ c ∈ name.toList, isPlain c = true

/-- A name of a class, with slashes between its packages; no keyword is one. -/
def PlainClassName (name : String) : Prop :=
  name ≠ "" ∧ (∀ c ∈ name.toList, isPlain c = true ∨ c = '/') ∧ Primitive.ofKeyword? name = none

instance (name : String) : Decidable (PlainName name) :=
  decidable_of_iff (name ≠ "" ∧ name.toList.all isPlain = true)
    (by rw [PlainName, List.all_eq_true])

instance (name : String) : Decidable (PlainClassName name) :=
  decidable_of_iff
    (name ≠ "" ∧ (name.toList.all fun c => isPlain c || c = '/') = true ∧
      Primitive.ofKeyword? name = none)
    (by simp [PlainClassName])

def Descriptor.Plain : Descriptor → Prop
  | primitive _ => True
  | object name => PlainClassName name
  | array element => element.Plain

def MemberRenaming.Plain : MemberRenaming → Prop
  | field type original renamed => type.Plain ∧ PlainName original ∧ PlainName renamed
  | method _ returnType parameterTypes original renamed _ =>
      returnType.Plain ∧ (∀ type ∈ parameterTypes, type.Plain) ∧
        PlainName original ∧ PlainName renamed

structure ClassBlock.Plain (block : ClassBlock) : Prop where
  original : PlainClassName block.original
  renamed : PlainClassName block.renamed
  members : ∀ member ∈ block.members, member.Plain

def isTypeChar (c : Char) : Bool :=
  isPlain c || c = '.' || c = '[' || c = ']'

theorem isPlain_of_isAlphanum {c : Char} (listed : c.isAlphanum = true ∨ c ∈ "_$-<>".toList) :
    isPlain c = true := by
  rcases listed with letter | sign
  · have unmarked : c ∉ lineMarks := by
      have outside : ∀ mark ∈ lineMarks, (!mark.isAlphanum) = true :=
        List.all_eq_true.mp (by decide)
      intro member
      have refused := outside c member
      rw [letter] at refused
      cases refused
    have range : (48 ≤ c.toNat ∧ c.toNat ≤ 57) ∨ (65 ≤ c.toNat ∧ c.toNat ≤ 90) ∨
        (97 ≤ c.toNat ∧ c.toNat ≤ 122) := by
      change ((decide (c.val ≥ 'A'.val ∧ c.val ≤ 'Z'.val) || (c.val ≥ 'a'.val && c.val ≤ 'z'.val)) ||
        (c.val ≥ '0'.val && c.val ≤ '9'.val)) = true at letter
      simp only [Bool.or_eq_true, Bool.and_eq_true, decide_eq_true_eq, UInt32.le_iff_toNat_le,
        ge_iff_le] at letter
      change (((65 ≤ c.toNat ∧ c.toNat ≤ 90) ∨ (97 ≤ c.toNat ∧ c.toNat ≤ 122)) ∨
        (48 ≤ c.toNat ∧ c.toNat ≤ 57)) at letter
      omega
    have unblank : Text.isBlank c = false := by
      simp only [Text.isBlank, Bool.or_eq_false_iff, Bool.and_eq_false_iff,
        decide_eq_false_iff_not, beq_eq_false_iff_ne]
      omega
    simp [isPlain, unblank, unmarked]
  · have signs : ∀ sign ∈ "_$-<>".toList, isPlain sign = true := List.all_eq_true.mp (by decide)
    exact signs c sign

theorem isTypeChar_of_isPlain {c : Char} (plain : isPlain c = true) : isTypeChar c = true := by
  simp [isTypeChar, plain]

theorem isTypeChar_of_isDigit {c : Char} (digit : c.isDigit = true) : isTypeChar c = true := by
  have letter : c.isAlphanum = true := by simp [Char.isAlphanum, digit]
  exact isTypeChar_of_isPlain (isPlain_of_isAlphanum (Or.inl letter))

theorem isTypeChar_toDigits (n : Nat) : ∀ c ∈ Nat.toDigits 10 n, isTypeChar c = true :=
  fun _ member =>
    isTypeChar_of_isDigit (Nat.isDigit_of_mem_toDigits (by decide) (by decide) member)

theorem isBlank_of_isTypeChar {c : Char} (inType : isTypeChar c = true) :
    Text.isBlank c = false := by
  simp only [isTypeChar, isPlain, Bool.or_eq_true, Bool.and_eq_true, Bool.not_eq_true',
    decide_eq_true_eq] at inType
  rcases inType with ((⟨unblank, _⟩ | rfl) | rfl) | rfl
  · exact unblank
  · decide
  · decide
  · decide

theorem ne_mark_of_isTypeChar {c : Char} (inType : isTypeChar c = true) {mark : Char}
    (ends : mark ∈ ['(', ')', ',', ':', '/', '#']) : c ≠ mark := by
  rintro rfl
  have outside : ∀ mark ∈ ['(', ')', ',', ':', '/', '#'], (!isTypeChar mark) = true :=
    List.all_eq_true.mp (by decide)
  have refused := outside c ends
  rw [inType] at refused
  cases refused

theorem ne_of_not_isBlank {c blank : Char} (unblank : Text.isBlank c = false)
    (isBlank : Text.isBlank blank = true) : c ≠ blank := by
  rintro rfl
  rw [unblank] at isBlank
  cases isBlank

theorem PlainClassName.hasTellingName {name : String} (plain : PlainClassName name) :
    (Descriptor.object name).HasTellingName := by
  obtain ⟨_, chars, unknown⟩ := plain
  have unmarked : ∀ mark ∈ ['.', '[', ']'], mark ∉ name.toList := by
    intro mark member inName
    simp only [List.mem_cons, List.not_mem_nil, or_false] at member
    rcases member with rfl | rfl | rfl
    · exact absurd (chars _ inName) (by decide)
    · exact absurd (chars _ inName) (by decide)
    · exact absurd (chars _ inName) (by decide)
  refine ⟨unknown, unmarked '.' (by simp), ?_⟩
  intro c last
  have inName := List.mem_of_getLast? last
  constructor
  · rintro rfl
    exact unmarked '[' (by simp) inName
  · rintro rfl
    exact unmarked ']' (by simp) inName

theorem Descriptor.Plain.hasTellingName {type : Descriptor} (plain : type.Plain) :
    type.HasTellingName := by
  induction type with
  | primitive kind => trivial
  | object name => exact PlainClassName.hasTellingName plain
  | array element ih => exact ih plain

theorem PlainClassName.dotted_chars {name : String} (plain : PlainClassName name) :
    ∀ c ∈ (Descriptor.dotted name).toList, isTypeChar c = true := by
  intro c member
  rw [Descriptor.toList_dotted] at member
  obtain ⟨original, inName, rfl⟩ := List.mem_map.mp member
  by_cases slash : original = '/'
  · simp [slash, isTypeChar]
  · rw [if_neg slash]
    exact isTypeChar_of_isPlain ((plain.2.1 original inName).resolve_right slash)

theorem PlainClassName.dotted_ne_nil {name : String} (plain : PlainClassName name) :
    (Descriptor.dotted name).toList ≠ [] := by
  rw [Descriptor.toList_dotted]
  intro empty
  exact plain.1 (String.toList_eq_nil_iff.mp (List.map_eq_nil_iff.mp empty))

theorem Descriptor.Plain.chars {type : Descriptor} (plain : type.Plain) :
    ∀ c ∈ type.qualifiedName.toList, isTypeChar c = true := by
  induction type with
  | primitive kind => cases kind <;> exact List.all_eq_true.mp (by decide)
  | object name => exact PlainClassName.dotted_chars plain
  | array element ih =>
      intro c member
      rw [qualifiedName, String.toList_append, List.mem_append] at member
      rcases member with inElement | bracket
      · exact ih plain c inElement
      · have brackets : ∀ c ∈ "[]".toList, isTypeChar c = true := List.all_eq_true.mp (by decide)
        exact brackets c bracket

theorem Descriptor.Plain.ne_nil {type : Descriptor} (plain : type.Plain) :
    type.qualifiedName.toList ≠ [] := by
  induction type with
  | primitive kind => cases kind <;> decide
  | object name => exact PlainClassName.dotted_ne_nil plain
  | array element ih =>
      rw [qualifiedName, String.toList_append]
      exact List.append_ne_nil_of_left_ne_nil (ih plain) _

theorem PlainName.ne_nil {name : String} (plain : PlainName name) : name.toList ≠ [] := by
  intro empty
  exact plain.1 (String.toList_eq_nil_iff.mp empty)

theorem PlainName.chars {name : String} (plain : PlainName name) :
    ∀ c ∈ name.toList, isTypeChar c = true :=
  fun c member => isTypeChar_of_isPlain (plain.2 c member)

end DexMembers
