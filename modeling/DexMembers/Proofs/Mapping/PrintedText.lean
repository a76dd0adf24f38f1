import DexMembers.Proofs.Mapping.PrintedLine

/-!
# The lines of a printed mapping file

The text of a row of blocks falls into the lines of its blocks.  A member's line has the role of a
member line and is read back as the parts it was printed from.
-/

set_option autoImplicit false

namespace DexMembers

/-! ### Member lines -/

namespace MemberRenaming

def parametersText (parameterTypes : List Descriptor) : List Char :=
  [','].intercalate (parameterTypes.map fun type => type.qualifiedName.toList)

def line : MemberRenaming → List Char
  | field type original renamed =>
      "    ".toList ++ ((newLinesText none).toList ++ (type.qualifiedName.toList ++
        ' ' :: (original.toList ++ (arrow ++ renamed.toList))))
  | method newLines returnType parameterTypes original renamed oldLines =>
      "    ".toList ++ ((newLinesText newLines).toList ++ (returnType.qualifiedName.toList ++
        ' ' :: (original.toList ++ ('(' :: (parametersText parameterTypes ++
          ')' :: ((oldLinesText oldLines).toList ++ (arrow ++ renamed.toList)))))))

def parts : MemberRenaming → MemberLine
  | field type original renamed =>
      { type := type.qualifiedName.toList
        original := original.toList
        parameters := none
        renamed := renamed.toList }
  | method _ returnType parameterTypes original renamed _ =>
      { type := returnType.qualifiedName.toList
        original := original.toList
        parameters := some (parametersText parameterTypes)
        renamed := renamed.toList }

theorem toList_text (member : MemberRenaming) : member.text.toList = member.line ++ ['\n'] := by
  have space : " ".toList = [' '] := rfl
  have feed : "\n".toList = ['\n'] := rfl
  have before : "(".toList = ['('] := rfl
  have behind : ")".toList = [')'] := rfl
  have comma : ",".toList = [','] := rfl
  cases member with
  | field type original renamed =>
      change ("    " ++ type.qualifiedName ++ " " ++ original ++ " -> " ++ renamed ++ "\n").toList =
        "    ".toList ++ (type.qualifiedName.toList ++
          ' ' :: (original.toList ++ (" -> ".toList ++ renamed.toList))) ++ ['\n']
      simp only [String.toList_append, space, feed, List.append_assoc, List.cons_append,
        List.nil_append]
  | method newLines returnType parameterTypes original renamed oldLines =>
      change ("    " ++ newLinesText newLines ++ returnType.qualifiedName ++ " " ++ original ++ "(" ++
        ",".intercalate (parameterTypes.map Descriptor.qualifiedName) ++ ")" ++
        oldLinesText oldLines ++ " -> " ++ renamed ++ "\n").toList =
        "    ".toList ++ ((newLinesText newLines).toList ++ (returnType.qualifiedName.toList ++
          ' ' :: (original.toList ++ ('(' :: (parametersText parameterTypes ++
            ')' :: ((oldLinesText oldLines).toList ++ (" -> ".toList ++ renamed.toList))))))) ++ ['\n']
      simp only [parametersText, String.toList_append, String.toList_intercalate, space, feed,
        before, behind, comma, List.map_map, Function.comp_def, List.append_assoc,
        List.cons_append, List.nil_append]

theorem parametersText_chars {parameterTypes : List Descriptor}
    (plain : ∀ type ∈ parameterTypes, type.Plain) :
    ∀ c ∈ parametersText parameterTypes, isTypeChar c = true ∨ c = ',' := by
  induction parameterTypes with
  | nil =>
      intro c member
      cases member
  | cons type rest ih =>
      simp only [List.mem_cons, forall_eq_or_imp] at plain
      intro c member
      cases rest with
      | nil =>
          rw [parametersText, List.map_singleton, List.intercalate_singleton] at member
          exact Or.inl (plain.1.chars c member)
      | cons next others =>
          rw [parametersText, List.map_cons, List.map_cons, List.intercalate_cons_cons,
            List.append_assoc, List.mem_append, List.mem_append] at member
          rcases member with inType | comma | later
          · exact Or.inl (plain.1.chars c inType)
          · exact Or.inr (List.mem_singleton.mp comma)
          · exact ih plain.2 c later

theorem read?_line {member : MemberRenaming} (plain : member.Plain) :
    MemberLine.read? member.line = some member.parts := by
  cases member with
  | field type original renamed =>
      obtain ⟨typePlain, originalPlain, renamedPlain⟩ := plain
      have unlisted : ∀ list, (none : Option (List Char)) = some list → ')' ∉ list := by
        intro list listed
        cases listed
      have read := MemberLine.read?_printed none none typePlain.ne_nil typePlain.chars
        originalPlain.ne_nil originalPlain.chars unlisted renamedPlain.ne_nil renamedPlain.chars
      simpa only [line, parts, MemberLine.parametersText, oldLinesText, String.toList_empty,
        List.nil_append] using read
  | method newLines returnType parameterTypes original renamed oldLines =>
      obtain ⟨returnPlain, parametersPlain, originalPlain, renamedPlain⟩ := plain
      have closed : ∀ list, some (parametersText parameterTypes) = some list → ')' ∉ list := by
        rintro _ ⟨⟩ member
        rcases parametersText_chars parametersPlain ')' member with inType | comma
        · exact ne_mark_of_isTypeChar inType (by simp) rfl
        · exact absurd comma (by decide)
      have read := MemberLine.read?_printed newLines oldLines returnPlain.ne_nil returnPlain.chars
        originalPlain.ne_nil originalPlain.chars closed renamedPlain.ne_nil renamedPlain.chars
      simpa only [line, parts, MemberLine.parametersText, List.cons_append, List.append_assoc,
        List.nil_append] using read

theorem role_line {member : MemberRenaming} (plain : member.Plain) :
    LineRole.of member.line = .memberLine := by
  obtain ⟨lines, written, rest, shape, nonempty, chars⟩ : ∃ lines written rest,
      member.line = "    ".toList ++ ((newLinesText lines).toList ++ (written ++ rest)) ∧
        written ≠ [] ∧ ∀ c ∈ written, isTypeChar c = true := by
    cases member with
    | field type original renamed =>
        exact ⟨none, _, _, rfl, plain.1.ne_nil, plain.1.chars⟩
    | method newLines returnType parameterTypes original renamed oldLines =>
        exact ⟨newLines, _, _, rfl, plain.1.ne_nil, plain.1.chars⟩
  obtain ⟨c, tail, body, inType⟩ := MemberLine.exists_first lines nonempty chars rest
  have noComment : c ≠ '#' := ne_mark_of_isTypeChar inType (by simp)
  have indents : ∀ c ∈ "    ".toList, Text.isBlank c = true := List.all_eq_true.mp (by decide)
  have stop : Text.StopsAt Text.isBlank (c :: tail) :=
    Text.stopsAt_cons (isBlank_of_isTypeChar inType)
  rw [shape, body]
  simp only [LineRole.of, Text.dropWhile_run indents stop, Text.takeWhile_run indents stop]
  rw [if_neg noComment, if_neg (by decide)]

end MemberRenaming

/-! ### Lines of text -/

def staysOnLine (c : Char) : Bool :=
  c ≠ '\n' && c ≠ '\r'

theorem staysOnLine_of_isTypeChar {c : Char} (inType : isTypeChar c = true) :
    staysOnLine c = true := by
  have unblank := isBlank_of_isTypeChar inType
  have noFeed : c ≠ '\n' := ne_of_not_isBlank unblank (by decide)
  have noReturn : c ≠ '\r' := ne_of_not_isBlank unblank (by decide)
  simp [staysOnLine, noFeed, noReturn]

theorem staysOnLine_toDigits (n : Nat) : ∀ c ∈ Nat.toDigits 10 n, staysOnLine c = true :=
  fun c member => staysOnLine_of_isTypeChar (isTypeChar_toDigits n c member)

namespace MemberRenaming

theorem staysOnLine_newLines (lines : Option (Nat × Nat)) :
    ∀ c ∈ (newLinesText lines).toList, staysOnLine c = true := by
  cases lines with
  | none =>
      intro c member
      cases member
  | some range =>
      have colon : ∀ c ∈ ":".toList, staysOnLine c = true := List.all_eq_true.mp (by decide)
      simp only [newLinesText, String.toList_append, Nat.toList_repr, List.forall_mem_append]
      exact ⟨⟨⟨staysOnLine_toDigits _, colon⟩, staysOnLine_toDigits _⟩, colon⟩

theorem staysOnLine_oldLines (lines : Option (Nat × Option Nat)) :
    ∀ c ∈ (oldLinesText lines).toList, staysOnLine c = true := by
  have colon : ∀ c ∈ ":".toList, staysOnLine c = true := List.all_eq_true.mp (by decide)
  cases lines with
  | none =>
      intro c member
      cases member
  | some range =>
      obtain ⟨first, last⟩ := range
      cases last with
      | none =>
          simp only [oldLinesText, String.toList_append, Nat.toList_repr, List.forall_mem_append]
          exact ⟨colon, staysOnLine_toDigits _⟩
      | some last =>
          simp only [oldLinesText, String.toList_append, Nat.toList_repr, List.forall_mem_append]
          exact ⟨⟨⟨colon, staysOnLine_toDigits _⟩, colon⟩, staysOnLine_toDigits _⟩

theorem staysOnLine_line {member : MemberRenaming} (plain : member.Plain) :
    ∀ c ∈ member.line, staysOnLine c = true := by
  have indents : ∀ c ∈ "    ".toList, staysOnLine c = true := List.all_eq_true.mp (by decide)
  have arrows : ∀ c ∈ arrow, staysOnLine c = true := List.all_eq_true.mp (by decide)
  have signs : ∀ c ∈ [' ', '(', ')', ','], staysOnLine c = true := List.all_eq_true.mp (by decide)
  cases member with
  | field type original renamed =>
      obtain ⟨typePlain, originalPlain, renamedPlain⟩ := plain
      simp only [line, List.forall_mem_append, List.forall_mem_cons]
      exact ⟨indents, staysOnLine_newLines none,
        fun c member => staysOnLine_of_isTypeChar (typePlain.chars c member),
        signs ' ' (by simp),
        fun c member => staysOnLine_of_isTypeChar (originalPlain.chars c member), arrows,
        fun c member => staysOnLine_of_isTypeChar (renamedPlain.chars c member)⟩
  | method newLines returnType parameterTypes original renamed oldLines =>
      obtain ⟨returnPlain, parametersPlain, originalPlain, renamedPlain⟩ := plain
      have parameters : ∀ c ∈ parametersText parameterTypes, staysOnLine c = true := by
        intro c member
        rcases parametersText_chars parametersPlain c member with inType | comma
        · exact staysOnLine_of_isTypeChar inType
        · rw [comma]
          exact signs ',' (by simp)
      simp only [line, List.forall_mem_append, List.forall_mem_cons]
      exact ⟨indents, staysOnLine_newLines newLines,
        fun c member => staysOnLine_of_isTypeChar (returnPlain.chars c member),
        signs ' ' (by simp),
        fun c member => staysOnLine_of_isTypeChar (originalPlain.chars c member),
        signs '(' (by simp), parameters, signs ')' (by simp), staysOnLine_oldLines oldLines, arrows,
        fun c member => staysOnLine_of_isTypeChar (renamedPlain.chars c member)⟩

end MemberRenaming

namespace ClassBlock

def lines (block : ClassBlock) : List (List Char) :=
  block.head :: block.members.map MemberRenaming.line

theorem staysOnLine_lines {block : ClassBlock} (plain : block.Plain) :
    ∀ line ∈ block.lines, ∀ c ∈ line, staysOnLine c = true := by
  have arrows : ∀ c ∈ arrow, staysOnLine c = true := List.all_eq_true.mp (by decide)
  have colon : staysOnLine ':' = true := by decide
  simp only [lines, List.forall_mem_cons, List.forall_mem_map]
  constructor
  · simp only [head, List.forall_mem_append, List.forall_mem_singleton]
    exact ⟨⟨⟨fun c member => staysOnLine_of_isTypeChar (plain.original.dotted_chars c member),
      arrows⟩, fun c member => staysOnLine_of_isTypeChar (plain.renamed.dotted_chars c member)⟩,
      colon⟩
  · exact fun member inBlock => MemberRenaming.staysOnLine_line (plain.members member inBlock)

theorem toList_text (block : ClassBlock) :
    block.text.toList = block.lines.flatMap (· ++ ['\n']) := by
  have ending : ":\n".toList = [':', '\n'] := rfl
  have members : (String.join (block.members.map MemberRenaming.text)).toList =
      (block.members.map MemberRenaming.line).flatMap (· ++ ['\n']) := by
    rw [String.toList_join, List.flatMap_map, List.flatMap_map]
    simp only [MemberRenaming.toList_text]
  simp only [text, String.toList_append, members, lines, List.flatMap_cons, head, arrow, ending,
    List.append_assoc, List.cons_append, List.nil_append]

end ClassBlock

namespace Mapping

theorem toList_textOf (blocks : List ClassBlock) :
    (textOf blocks).toList = (blocks.flatMap ClassBlock.lines).flatMap (· ++ ['\n']) := by
  rw [textOf, String.toList_join, List.flatMap_map, List.flatMap_assoc]
  simp only [ClassBlock.toList_text]

/-- The text of the blocks has the lines of the blocks, and an empty one behind them. -/
theorem lines_textOf {blocks : List ClassBlock} (plain : ∀ block ∈ blocks, block.Plain) :
    lines (textOf blocks).toList = blocks.flatMap ClassBlock.lines ++ [[]] := by
  have chars : ∀ line ∈ blocks.flatMap ClassBlock.lines, ∀ c ∈ line, staysOnLine c = true := by
    intro line member
    obtain ⟨block, inBlocks, inBlock⟩ := List.mem_flatMap.mp member
    exact ClassBlock.staysOnLine_lines (plain block inBlocks) line inBlock
  have unbroken : ∀ line ∈ blocks.flatMap ClassBlock.lines, '\n' ∉ line := by
    intro line member feed
    exact absurd (chars line member '\n' feed) (by decide)
  have untrimmed : ∀ line ∈ blocks.flatMap ClassBlock.lines ++ [[]],
      Text.trimEnd (· = '\r') line = id line := by
    intro line member
    have stop : ∀ c, line.getLast? = some c → decide (c = '\r') = false := by
      intro c last
      have inLine := List.mem_of_getLast? last
      rcases List.mem_append.mp member with inBlocks | empty
      · have stays := chars line inBlocks c inLine
        simp only [staysOnLine, Bool.and_eq_true, decide_eq_true_eq] at stays
        simpa using stays.2
      · rw [List.mem_singleton.mp empty] at inLine
        cases inLine
    have inside : ∀ c ∈ ([] : List Char), decide (c = '\r') = true := by simp
    simpa using Text.trimEnd_append inside stop
  rw [lines, toList_textOf, Text.splitAll_flatMap unbroken, List.map_congr_left untrimmed,
    List.map_id]

end Mapping

end DexMembers
