import DexMembers.Descriptor.Reader
import DexMembers.Proofs.Text.Span

/-!
# The grammar of descriptors

`Written token type` says in the format's own words that a token is the written form of a type: up
to 255 brackets, then a primitive's letter, or `L`, a name and `;`.  The reader accepts exactly
these tokens, and tells a single unknown character behind the brackets from every other mistake.
-/

set_option autoImplicit false

namespace DexMembers

namespace Descriptor

inductive ScalarForm : List Char → Descriptor → Prop where
  | primitive (kind : Primitive) : ScalarForm [kind.code] (primitive kind)
  | object (name : List Char) (nonempty : name ≠ []) (unbroken : ';' ∉ name) :
      ScalarForm ('L' :: (name ++ [';'])) (object (String.ofList name))

/-- The token is the written form of the type, which has at most 255 dimensions. -/
def Written (token : String) (type : Descriptor) : Prop :=
  ∃ dimensions ≤ 255, ∃ form scalar, ScalarForm form scalar ∧
    token.toList = List.replicate dimensions '[' ++ form ∧ type = scalar.nested dimensions

/-- Behind at most 255 brackets the token is one character that begins no type. -/
def EndsInUnknown (token : String) (c : Char) : Prop :=
  ∃ dimensions ≤ 255, token.toList = List.replicate dimensions '[' ++ [c] ∧
    c ≠ '[' ∧ c ≠ 'L' ∧ ∀ kind : Primitive, c ≠ kind.code

/-- The object that the type names, if it names one, has a name that can be written. -/
def HasWritableName : Descriptor → Prop
  | primitive _ => True
  | object name => name ≠ "" ∧ ';' ∉ name.toList
  | array element => element.HasWritableName

/-! ### Types and their dimensions -/

theorem hasWritableName_component (type : Descriptor) :
    type.component.HasWritableName ↔ type.HasWritableName := by
  induction type with
  | primitive kind => rfl
  | object name => rfl
  | array element ih => simpa only [component, HasWritableName] using ih

theorem toList_text_nested (scalar : Descriptor) (dimensions : Nat) :
    (scalar.nested dimensions).text.toList =
      List.replicate dimensions '[' ++ scalar.text.toList := by
  induction dimensions with
  | zero => rfl
  | succ dimensions ih =>
      simp only [nested, text, String.toList_append, ih, List.replicate_succ, List.cons_append]
      rfl

theorem ScalarForm.toList_text {form : List Char} {scalar : Descriptor}
    (written : ScalarForm form scalar) : scalar.text.toList = form := by
  cases written with
  | primitive kind => simp [text]
  | object name nonempty unbroken => simp [text]

theorem scalarForm_component {type : Descriptor} (writable : type.HasWritableName) :
    ScalarForm type.component.text.toList type.component := by
  have writable := (hasWritableName_component type).mpr writable
  cases scalar : type.component with
  | primitive kind =>
      have form : (primitive kind).text.toList = [kind.code] := by simp [text]
      rw [form]
      exact ScalarForm.primitive kind
  | object name =>
      rw [scalar] at writable
      have form : (object name).text.toList = 'L' :: (name.toList ++ [';']) := by simp [text]
      have nonempty : name.toList ≠ [] := by
        intro empty
        exact writable.1 (String.toList_eq_nil_iff.mp empty)
      rw [form]
      simpa using ScalarForm.object name.toList nonempty writable.2
  | array element =>
      have flat : ∀ type : Descriptor, ∀ element, type.component ≠ array element := by
        intro type
        induction type with
        | primitive kind => intro element; simp [component]
        | object name => intro element; simp [component]
        | array inner ih => exact ih
      exact absurd scalar (flat type element)

/-! ### What the reader does behind the brackets -/

theorem exists_brackets (text : List Char) :
    ∃ dimensions rest, text = List.replicate dimensions '[' ++ rest ∧ rest.head? ≠ some '[' := by
  induction text with
  | nil => exact ⟨0, [], rfl, by simp⟩
  | cons c text ih =>
      by_cases bracket : c = '['
      · obtain ⟨dimensions, rest, split, stop⟩ := ih
        refine ⟨dimensions + 1, rest, ?_, stop⟩
        rw [bracket, split, List.replicate_succ, List.cons_append]
      · exact ⟨0, c :: text, rfl, by simpa using bracket⟩

theorem ofChars?_replicate_append (dimensions : Nat) (rest : List Char) :
    ofChars? (List.replicate dimensions '[' ++ rest) =
      (ofChars? rest).map fun scalar => scalar.nested dimensions := by
  induction dimensions with
  | zero => simp [nested]
  | succ dimensions ih =>
      rw [List.replicate_succ, List.cons_append, ofChars?, if_pos rfl, ih, Option.map_map]
      rfl

theorem ofObjectChars?_eq_some_iff {text : List Char} {type : Descriptor} :
    ofObjectChars? text = some type ↔
      ∃ name, name ≠ [] ∧ ';' ∉ name ∧ text = name ++ [';'] ∧
        type = object (String.ofList name) := by
  constructor
  · intro found
    simp only [ofObjectChars?] at found
    split at found
    · rename_i parts
      obtain ⟨nonempty, last⟩ := parts
      refine ⟨text.takeWhile (· ≠ ';'), nonempty, ?_, ?_, ?_⟩
      · intro member
        have inside := List.all_eq_true.mp (List.all_takeWhile (p := (· ≠ ';'))) _ member
        simp at inside
      · rw [← last, List.takeWhile_append_dropWhile]
      · exact (Option.some.inj found).symm
    · cases found
  · rintro ⟨name, nonempty, unbroken, rfl, rfl⟩
    have plain : ∀ c ∈ name, decide (c ≠ ';') = true := by
      intro c member
      simpa using fun same : c = ';' => unbroken (same ▸ member)
    have stop : Text.StopsAt (fun c => decide (c ≠ ';')) [';'] := Text.stopsAt_cons (by simp)
    simp only [ofObjectChars?]
    rw [Text.takeWhile_run plain stop, Text.dropWhile_run plain stop, if_pos ⟨nonempty, rfl⟩]

/-- Without a bracket in front, the reader knows exactly the forms of types that are no arrays. -/
theorem ofChars?_eq_some_iff {rest : List Char} {type : Descriptor} (stop : rest.head? ≠ some '[') :
    ofChars? rest = some type ↔ ScalarForm rest type := by
  constructor
  · intro found
    cases rest with
    | nil => simp [ofChars?] at found
    | cons c rest =>
        have noBracket : c ≠ '[' := by simpa using stop
        rw [ofChars?, if_neg noBracket] at found
        by_cases mark : c = 'L'
        · rw [if_pos mark] at found
          obtain ⟨name, nonempty, unbroken, rfl, rfl⟩ := ofObjectChars?_eq_some_iff.mp found
          rw [mark]
          exact ScalarForm.object name nonempty unbroken
        · rw [if_neg mark] at found
          split at found
          · rename_i single
            obtain ⟨kind, known, rfl⟩ := Option.map_eq_some_iff.mp found
            rw [single, Primitive.ofCode?_eq_some_iff.mp known]
            exact ScalarForm.primitive kind
          · cases found
  · intro form
    cases form with
    | primitive kind => cases kind <;> rfl
    | object name nonempty unbroken =>
        rw [ofChars?, if_neg (by decide), if_pos rfl]
        exact ofObjectChars?_eq_some_iff.mpr ⟨name, nonempty, unbroken, rfl, rfl⟩

theorem ScalarForm.head?_ne {form : List Char} {scalar : Descriptor}
    (written : ScalarForm form scalar) : form.head? ≠ some '[' := by
  cases written with
  | primitive kind => cases kind <;> decide
  | object name nonempty unbroken => simp

def restFailure (token : String) : List Char → DescriptorError
  | [c] => if c = 'L' then .malformed token else .unknownPrimitive c
  | _ => .malformed token

theorem read_brackets {token : String} {dimensions : Nat} {rest : List Char}
    (split : token.toList = List.replicate dimensions '[' ++ rest)
    (stop : rest.head? ≠ some '[') :
    read token =
      if 255 < dimensions then .error (.malformed token)
      else
        match ofChars? rest with
        | some scalar => .ok (scalar.nested dimensions)
        | none => .error (restFailure token rest) := by
  have brackets : ∀ c ∈ List.replicate dimensions '[', decide (c = '[') = true := by
    intro c member
    simpa using (List.mem_replicate.mp member).2
  have stops : Text.StopsAt (fun c => decide (c = '[')) rest := by
    intro c first
    simpa using fun bracket : c = '[' => stop (bracket ▸ first)
  have count : (token.toList.takeWhile (· = '[')).length = dimensions := by
    rw [split, Text.takeWhile_run brackets stops, List.length_replicate]
  have cause : failure token = restFailure token rest := by
    simp only [failure]
    rw [split, Text.dropWhile_run brackets stops]
    rfl
  simp only [read, count, maxDimensions]
  rw [split, ofChars?_replicate_append, cause]
  cases ofChars? rest <;> rfl

/-! ### The reader against the grammar -/

theorem read_eq_ok_of_written {token : String} {type : Descriptor}
    (written : Written token type) : read token = .ok type := by
  obtain ⟨dimensions, few, form, scalar, scalarForm, split, rfl⟩ := written
  have stop := scalarForm.head?_ne
  rw [read_brackets split stop, if_neg (by omega), (ofChars?_eq_some_iff stop).mpr scalarForm]

theorem written_of_read_eq_ok {token : String} {type : Descriptor}
    (accepted : read token = .ok type) : Written token type := by
  obtain ⟨dimensions, rest, split, stop⟩ := exists_brackets token.toList
  rw [read_brackets split stop] at accepted
  split at accepted
  · cases accepted
  · rename_i few
    cases found : ofChars? rest with
    | none => simp [found] at accepted
    | some scalar =>
        simp only [found, Except.ok.injEq] at accepted
        exact ⟨dimensions, by omega, rest, scalar, (ofChars?_eq_some_iff stop).mp found, split,
          accepted.symm⟩

theorem toList_text_of_written {token : String} {type : Descriptor}
    (written : Written token type) : type.text = token := by
  obtain ⟨dimensions, few, form, scalar, scalarForm, split, rfl⟩ := written
  apply String.toList_injective
  rw [toList_text_nested, scalarForm.toList_text, split]

theorem written_text {type : Descriptor} (few : type.arity ≤ 255)
    (writable : type.HasWritableName) : Written type.text type := by
  refine ⟨type.arity, few, _, _, scalarForm_component writable, ?_, (nested_component type).symm⟩
  rw [← toList_text_nested, nested_component]

theorem restFailure_eq_unknown {token : String} {rest : List Char} {c : Char}
    (cause : restFailure token rest = .unknownPrimitive c) : rest = [c] ∧ c ≠ 'L' := by
  cases rest with
  | nil => simp [restFailure] at cause
  | cons first rest =>
      cases rest with
      | cons second rest => simp [restFailure] at cause
      | nil =>
          simp only [restFailure] at cause
          split at cause
          · cases cause
          · rename_i mark
            cases cause
            exact ⟨rfl, mark⟩

theorem restFailure_eq_malformed {token text : String} {rest : List Char}
    (cause : restFailure token rest = .malformed text) : text = token := by
  cases rest with
  | nil => exact (DescriptorError.malformed.inj cause).symm
  | cons first rest =>
      cases rest with
      | cons second rest => exact (DescriptorError.malformed.inj cause).symm
      | nil =>
          simp only [restFailure] at cause
          split at cause
          · exact (DescriptorError.malformed.inj cause).symm
          · cases cause

theorem read_eq_unknown_iff {token : String} {c : Char} :
    read token = .error (.unknownPrimitive c) ↔ EndsInUnknown token c := by
  constructor
  · intro refused
    obtain ⟨dimensions, rest, split, stop⟩ := exists_brackets token.toList
    rw [read_brackets split stop] at refused
    split at refused
    · cases refused
    · rename_i few
      cases found : ofChars? rest with
      | some scalar => simp [found] at refused
      | none =>
          simp only [found, Except.error.injEq] at refused
          obtain ⟨rfl, mark⟩ := restFailure_eq_unknown refused
          refine ⟨dimensions, by omega, split, by simpa using stop, mark, ?_⟩
          intro kind letter
          have known := (ofChars?_eq_some_iff stop).mpr (letter ▸ ScalarForm.primitive kind)
          simp [found] at known
  · rintro ⟨dimensions, few, split, noBracket, noMark, unknown⟩
    have stop : [c].head? ≠ some '[' := by simpa using noBracket
    have refused : ofChars? [c] = none := by
      cases found : ofChars? [c] with
      | none => rfl
      | some type =>
          have form := (ofChars?_eq_some_iff stop).mp found
          generalize text : [c] = chars at form
          cases form with
          | primitive kind => exact absurd (List.singleton_inj.mp text) (unknown kind)
          | object name nonempty unbroken => simp at text
    rw [read_brackets split stop, if_neg (by omega), refused]
    simp [restFailure, noMark]

theorem eq_of_read_eq_malformed {token text : String}
    (refused : read token = .error (.malformed text)) : text = token := by
  obtain ⟨dimensions, rest, split, stop⟩ := exists_brackets token.toList
  rw [read_brackets split stop] at refused
  split at refused
  · cases refused
    rfl
  · cases found : ofChars? rest with
    | some scalar => simp [found] at refused
    | none =>
        simp only [found, Except.error.injEq] at refused
        exact restFailure_eq_malformed refused

/-- The reader accepts the written forms of types and nothing else, each as the type it writes;
of the other tokens it names the character that no type begins with if there is nothing else behind
the brackets, and gives back the token otherwise. -/
theorem read_classifies (token : String) :
    (∀ type, read token = .ok type ↔ Written token type) ∧
    (∀ type, Written token type → type.text = token) ∧
    (∀ type : Descriptor, type.arity ≤ 255 → type.HasWritableName → read type.text = .ok type) ∧
    (∀ c, read token = .error (.unknownPrimitive c) ↔ EndsInUnknown token c) ∧
    (∀ text, read token = .error (.malformed text) ↔
      text = token ∧ (∀ type, ¬ Written token type) ∧ ∀ c, ¬ EndsInUnknown token c) := by
  refine ⟨?_, ?_, ?_, ?_, ?_⟩
  · exact fun type => ⟨written_of_read_eq_ok, read_eq_ok_of_written⟩
  · exact fun type written => toList_text_of_written written
  · exact fun type few writable => read_eq_ok_of_written (written_text few writable)
  · exact fun c => read_eq_unknown_iff
  · intro text
    constructor
    · intro refused
      refine ⟨eq_of_read_eq_malformed refused, ?_, ?_⟩
      · intro type written
        rw [read_eq_ok_of_written written] at refused
        cases refused
      · intro c unknown
        rw [read_eq_unknown_iff.mpr unknown] at refused
        cases refused
    · rintro ⟨rfl, unwritten, known⟩
      cases result : read text with
      | ok type => exact absurd (written_of_read_eq_ok result) (unwritten type)
      | error cause =>
          cases cause with
          | unknownPrimitive c => exact absurd (read_eq_unknown_iff.mp result) (known c)
          | malformed other => rw [eq_of_read_eq_malformed result]

/-- Brackets and marks inside a name are part of it. -/
theorem read_classifies_odd_name :
    (array (array (object "a[L/é"))).arity ≤ 255 ∧
      (array (array (object "a[L/é"))).HasWritableName ∧
      read "[[La[L/é;" = .ok (array (array (object "a[L/é"))) ∧
      Written "[[La[L/é;" (array (array (object "a[L/é"))) := by
  have few : (array (array (object "a[L/é"))).arity ≤ 255 := by decide
  have writable : (array (array (object "a[L/é"))).HasWritableName :=
    ⟨by decide, by decide⟩
  have same : (array (array (object "a[L/é"))).text = "[[La[L/é;" := by decide
  have accepted := (read_classifies "[[La[L/é;").2.2.1 _ few writable
  rw [same] at accepted
  exact ⟨few, writable, accepted, ((read_classifies "[[La[L/é;").1 _).mp accepted⟩

end Descriptor

end DexMembers
