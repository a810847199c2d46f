import DeadSymbols.Proofs.LineGrammar
import DeadSymbols.Proofs.Lines

/-!
Contract: the lines of a written dump, and what each reader sees in them.

A dump is written in lines of a few kinds, each with a fixed indentation and a leading word. The
names of classes, methods and ivars share one shape and are told apart by their place only. Every
reader looks at a line through the word that leads it, so one statement, `startsWith_text`, says
which readers can accept which lines; the rest follows reader by reader.

Owns: the kinds of lines, their text, and the readers' views of them.
Does not own: in which order a dump holds its lines (`Printed.Description`).
-/

namespace DeadSymbols.Dump.Printed

open DeadSymbols.Text

/-- A name in a dump: one or more characters, none of them white space. -/
structure Token where
  chars : List Char
  isWord : Run isWordChar chars

/-- The token as a name. -/
def Token.name (token : Token) : String := String.ofList token.chars

@[simp] theorem Token.toList_name (token : Token) : token.name.toList = token.chars :=
  String.toList_ofList

/-- The digits of an address. -/
structure Address where
  digits : List Char
  isHex : Run isHexDigit digits

/-- Text that stays on its line. -/
structure LineText where
  chars : List Char
  single : SingleLine chars

/-- The words by which the readers know their lines. -/
def keywords : List String :=
  ["name", "imp", "data", "baseMethods", "baseProtocols", "Contents of"]

/-- A line for no reader, such as a blank line or a field that the analysis does not use. -/
structure Filler where
  chars : List Char
  single : SingleLine chars
  inert : ∀ word ∈ keywords, startsWith word.toList (trimStart chars) = false

/-- A data segment: `__DATA`, and what its name has after that. -/
structure Segment where
  suffix : List Char
  plain : suffix.all (fun c => isNameChar c && isWordChar c) = true

/-- The name of a segment. -/
def Segment.chars (segment : Segment) : List Char := "__DATA".toList ++ segment.suffix

/-- The sections that the readers look for. -/
inductive SectionKind where
  | classList
  | classReferences
  | selectorReferences
deriving DecidableEq

/-- The name of a section. -/
def SectionKind.name : SectionKind → String
  | .classList => Dump.classList
  | .classReferences => Dump.classReferences
  | .selectorReferences => Dump.selectorReferences

/-- Whether a method belongs to the instances or to the class. -/
inductive Sign where
  | ofInstance
  | ofClass

/-- The mark of a method before its symbol. -/
def Sign.mark : Sign → List Char
  | .ofInstance => "-".toList
  | .ofClass => "+".toList

/-- A line of a dump. -/
inductive Line where
  | filler (ignored : Filler)
  | header (segment : Segment) (kind : SectionKind)
  | record (flavor : Flavor) (address : Address)
  | className (address : Address) (token : Token)
  | baseMethods (address : Address)
  | methodName (address : Address) (selector : Token)
  | types (address : Address) (encoding : LineText)
  | strippedImp (address : Address)
  | symbolImp (address : Address) (sign : Sign) (owner selector : Token)
      (closable : ']' ∉ selector.chars)
  | baseProtocols (address : Address)
  | ivarName (address : Address) (name : Token)
  | ivarType (address : Address) (encoding : LineText)
  | classReference (place address : Address) (token : Token)
  | selectorReference (place : Address) (selector : Token)

/-- The text that marks the record of a Swift class. -/
def flavorMark : Flavor → List Char
  | .native => []
  | .bridged => " Swift class".toList

/-- A word with an address after it, indented, and the text after them. -/
def keyedText (indent key : String) (address : Address) (tail : List Char) : List Char :=
  indent.toList ++ (key.toList ++ (" ".toList ++ ("0x".toList ++ (address.digits ++ tail))))

/-- The text of a line, without its line end. -/
def Line.text : Line → List Char
  | .filler ignored => ignored.chars
  | .header segment kind => headerLine segment.chars kind.name.toList
  | .record flavor address =>
      keyedText "          " "data" address (" (struct class_ro_t *)".toList ++ flavorMark flavor)
  | .className address token =>
      keyedText "                     " "name" address (" ".toList ++ token.chars)
  | .baseMethods address =>
      keyedText "              " "baseMethods" address " (struct method_list_t *)".toList
  | .methodName address selector =>
      keyedText "\t\t      " "name" address (" ".toList ++ selector.chars)
  | .types address encoding =>
      keyedText "\t\t     " "types" address (" ".toList ++ encoding.chars)
  | .strippedImp address => keyedText "\t\t       " "imp" address []
  | .symbolImp address sign owner selector _ =>
      keyedText "\t\t       " "imp" address
        (" ".toList ++ (sign.mark ++ ("[".toList ++ (owner.chars ++ (" ".toList ++
          (selector.chars ++ "]".toList))))))
  | .baseProtocols address => keyedText "            " "baseProtocols" address []
  | .ivarName address name =>
      keyedText "                     " "name" address (" ".toList ++ name.chars)
  | .ivarType address encoding =>
      keyedText "                     " "type" address (" ".toList ++ encoding.chars)
  | .classReference place address token =>
      place.digits ++ (" ".toList ++ ("0x".toList ++ (address.digits ++ (" ".toList ++
        ("_OBJC_CLASS_$_".toList ++ token.chars)))))
  | .selectorReference place selector =>
      place.digits ++ ("  ".toList ++ (selectorMark ++ selector.chars))

/-- The word that leads a line, as far as a reader looks for it; empty for lines without one. -/
def Line.lead : Line → String
  | .filler _ | .classReference .. | .selectorReference .. => ""
  | .header .. => "Contents of"
  | .record .. => "data"
  | .className .. | .methodName .. | .ivarName .. => "name"
  | .baseMethods _ => "baseMethods"
  | .types .. => "types"
  | .strippedImp _ | .symbolImp .. => "imp"
  | .baseProtocols _ => "baseProtocols"
  | .ivarType .. => "type"

/-- The part of a line for the records around it. -/
def Line.role : Line → LineRole
  | .record flavor _ => .header flavor
  | .header .. | .baseProtocols _ => .terminator
  | _ => .content

/-- The name that a line gives. -/
def Line.name? : Line → Option String
  | .className _ token | .methodName _ token | .ivarName _ token => some token.name
  | _ => none

/-- The implementation that a line gives. -/
def Line.imp? : Line → Option ImpLine
  | .strippedImp _ => some .stripped
  | .symbolImp _ _ owner selector _ => some (.symbol owner.name selector.name)
  | _ => none

/-! ### Lines that start with a word and an address -/

section KeyedText

variable {indent key : String} {address : Address} {tail : List Char}

theorem trimStart_keyedText (spaces : Spaces indent.toList) (isWord : Run isWordChar key.toList) :
    trimStart (keyedText indent key address tail) =
      key.toList ++ (" ".toList ++ ("0x".toList ++ (address.digits ++ tail))) :=
  trimStart_append spaces isWord.stops_space

theorem keyed_keyedText (spaces : Spaces indent.toList) (stops : Stops isHexDigit tail) :
    Keyed key.toList (keyedText indent key address tail) tail :=
  ⟨indent.toList, " ".toList, address.digits, rfl, spaces, by decide, address.isHex, stops⟩

/-- Which of the readers' words leads a text that is written with one. -/
theorem startsWith_led {rest : List Char}
    (apart : ∀ word ∈ keywords, word = key ∨ clash word.toList key.toList = true) (word : String)
    (member : word ∈ keywords) :
    startsWith word.toList (key.toList ++ rest) = decide (word = key) := by
  by_cases same : word = key
  · rw [decide_eq_true same, same]
    exact startsWith_iff.mpr ⟨rest, rfl⟩
  · rw [decide_eq_false same]
    exact startsWith_eq_false_of_clash ((apart word member).resolve_left same)

theorem startsWith_keyedText (spaces : Spaces indent.toList) (isWord : Run isWordChar key.toList)
    (apart : ∀ word ∈ keywords, word = key ∨ clash word.toList key.toList = true) (word : String)
    (member : word ∈ keywords) :
    startsWith word.toList (trimStart (keyedText indent key address tail)) =
      decide (word = key) := by
  rw [trimStart_keyedText spaces isWord]
  exact startsWith_led apart word member

theorem isBlank_keyedText (isWord : Run isWordChar key.toList) :
    isBlank (keyedText indent key address tail) = false := by
  obtain ⟨c, member⟩ := List.exists_mem_of_ne_nil _ isWord.1
  refine List.all_eq_false.mpr ⟨c, ?_, ?_⟩
  · simp [keyedText, member]
  · rw [isWordChar_iff.mp (isWord.2 c member)]
    exact Bool.false_ne_true

theorem Address.single (address : Address) : SingleLine address.digits :=
  (address.isHex.imp fun _ digit =>
    isWordChar_iff.mpr (isSpace_eq_false_of_isHexDigit digit)).single

theorem Token.single (token : Token) : SingleLine token.chars := token.isWord.single

theorem single_keyedText (indentSingle : SingleLine indent.toList)
    (keySingle : SingleLine key.toList) (tailSingle : SingleLine tail) :
    SingleLine (keyedText indent key address tail) := by
  have blank : SingleLine " ".toList := by decide
  have zero : SingleLine "0x".toList := by decide
  exact indentSingle.append (keySingle.append (blank.append (zero.append
    (address.single.append tailSingle))))

end KeyedText

/-! ### What leads a line -/

theorem SectionKind.isName (kind : SectionKind) : Run isNameChar kind.name.toList := by
  cases kind with
  | classList => decide
  | classReferences => decide
  | selectorReferences => decide

theorem SectionKind.isWord (kind : SectionKind) : Run isWordChar kind.name.toList := by
  cases kind with
  | classList => decide
  | classReferences => decide
  | selectorReferences => decide

theorem Segment.isNameWord (segment : Segment) :
    Run (fun c => isNameChar c && isWordChar c) segment.chars := by
  have leading : Run (fun c => isNameChar c && isWordChar c) "__DATA".toList := by decide
  refine ⟨List.append_ne_nil_of_left_ne_nil leading.1 _, ?_⟩
  exact List.forall_mem_append.mpr ⟨leading.2, List.all_eq_true.mp segment.plain⟩

theorem Segment.isName (segment : Segment) : Run isNameChar segment.chars :=
  segment.isNameWord.imp fun _ both => (Bool.and_eq_true_iff.mp both).1

theorem Segment.isWord (segment : Segment) : Run isWordChar segment.chars :=
  segment.isNameWord.imp fun _ both => (Bool.and_eq_true_iff.mp both).2

/-- A line that starts with digits and a blank is led by none of the readers' words. -/
theorem startsWith_digits_keyword (place : Address) {rest : List Char} (word : String)
    (member : word ∈ keywords) :
    startsWith word.toList (trimStart (place.digits ++ ' ' :: rest)) = false := by
  have stops : Stops isSpace (place.digits ++ ' ' :: rest) :=
    place.isHex.stops_append fun _ => isSpace_eq_false_of_isHexDigit
  have apart : ∀ word ∈ keywords,
      (word.toList.dropWhile isHexDigit).head?.any (· ≠ ' ') = true := by decide
  rw [trimStart_of_stops stops]
  exact startsWith_digits_eq_false place.isHex (apart word member)

theorem startsWith_headerLine {segment name : List Char} (word : String)
    (member : word ∈ keywords) :
    startsWith word.toList (trimStart (headerLine segment name)) =
      decide (word = "Contents of") := by
  have parts : headerLine segment name =
      "Contents of".toList ++ (" (".toList ++ (segment ++ (",".toList ++ (name ++
        ") section".toList)))) := by
    unfold headerLine
    rw [List.append_assoc, List.append_assoc, List.append_assoc]
    rfl
  have stops : Stops isSpace (headerLine segment name) := by
    rw [parts]
    exact stops_word (by decide)
  rw [trimStart_of_stops stops, parts]
  exact startsWith_led (by decide) word member

/-- The words that a reader looks for lead exactly the lines that are written with them. -/
theorem startsWith_text (line : Line) :
    ∀ word ∈ keywords,
      startsWith word.toList (trimStart line.text) = decide (word = line.lead) := by
  have noWord : ∀ word ∈ keywords, decide (word = "") = false := by decide
  cases line with
  | filler ignored =>
      intro word member
      rw [Line.lead, noWord word member]
      exact ignored.inert word member
  | header segment kind => exact startsWith_headerLine
  | record | className | baseMethods | methodName | types | strippedImp | symbolImp | baseProtocols
  | ivarName | ivarType =>
      exact startsWith_keyedText (by decide) (by decide) (by decide)
  | classReference place | selectorReference place =>
      intro word member
      rw [Line.lead, noWord word member]
      exact startsWith_digits_keyword place word member

/-! ### What the readers see -/

variable {text : List Char}

theorem nameToken?_eq_none (absent : startsWith "name".toList (trimStart text) = false) :
    nameToken? text = none := by
  rw [nameToken?, after?_eq_none absent]
  rfl

theorem impLine?_eq_none (absent : startsWith "imp".toList (trimStart text) = false) :
    impLine? text = none := by
  rw [impLine?, after?_eq_none absent]
  rfl

theorem afterRecordPointer?_eq_none (absent : startsWith "data".toList (trimStart text) = false) :
    afterRecordPointer? text = none := by
  rw [afterRecordPointer?, after?_eq_none absent]
  rfl

theorem nameToken?_keyedText {indent : String} (spaces : Spaces indent.toList) (address : Address)
    (token : Token) :
    nameToken? (keyedText indent "name" address (" ".toList ++ token.chars)) = some token.name := by
  have stops : Stops isHexDigit (" ".toList ++ token.chars) := stops_word (by decide)
  refine nameToken?_eq_some_iff_keyed.mpr ⟨" ".toList, [], ?_, by decide, ?_, stops_nil⟩
  · rw [Token.toList_name, List.append_nil]
    exact keyed_keyedText spaces stops
  · rw [Token.toList_name]
    exact token.isWord

/-- Of all lines, the reader of names accepts the three kinds of name lines. -/
theorem nameToken?_text (line : Line) : nameToken? line.text = line.name? := by
  have leads := startsWith_text line "name" (by decide)
  cases line with
  | className address token | methodName address token | ivarName address token =>
      exact nameToken?_keyedText (by decide) address token
  | filler | header | record | baseMethods | types | strippedImp | symbolImp | baseProtocols
  | ivarType | classReference | selectorReference => exact nameToken?_eq_none leads

theorem symbolText_symbolImp (sign : Sign) (owner selector : Token)
    (closable : ']' ∉ selector.chars) :
    SymbolText (" ".toList ++ (sign.mark ++ ("[".toList ++ (owner.chars ++ (" ".toList ++
      (selector.chars ++ "]".toList)))))) owner.name selector.name := by
  refine ⟨" ".toList, sign.mark, [], ?_, by decide, ?_, ?_, ?_⟩
  · simp only [Token.toList_name, List.append_assoc, List.append_nil]
  · cases sign with
    | ofInstance => exact Or.inl rfl
    | ofClass => exact Or.inr rfl
  · rw [Token.toList_name]
    exact owner.isWord
  · rw [Token.toList_name]
    refine ⟨selector.isWord.1, ?_⟩
    intro c member
    have notClosing : c ≠ ']' := fun same => closable (same ▸ member)
    have notSpace := selector.isWord.2 c member
    rw [isSymbolSelectorChar, decide_eq_true notClosing]
    exact notSpace

/-- Of all lines, the reader of implementations accepts the two kinds of implementation lines. -/
theorem impLine?_text (line : Line) : impLine? line.text = line.imp? := by
  have leads := startsWith_text line "imp" (by decide)
  cases line with
  | strippedImp address =>
      exact impLine?_eq_some_iff.mpr ⟨[], keyed_keyedText (by decide) stops_nil, by decide⟩
  | symbolImp address sign owner selector closable =>
      refine impLine?_eq_some_iff.mpr ⟨_, keyed_keyedText (by decide) ?_, ?_⟩
      · exact stops_word (by decide)
      · exact (ImpLine.ofText_eq_symbol_iff.mpr
          (symbolText_symbolImp sign owner selector closable)).symm
  | filler | header | record | className | baseMethods | methodName | types | baseProtocols
  | ivarName | ivarType | classReference | selectorReference => exact impLine?_eq_none leads

theorem afterRecordPointer?_record (flavor : Flavor) (address : Address) :
    afterRecordPointer? (Line.record flavor address).text = some (flavorMark flavor) := by
  have isWord : Run isWordChar "data".toList := by decide
  have tail : " (struct class_ro_t *)".toList ++ flavorMark flavor =
      " ".toList ++ ("(struct class_ro_t *)".toList ++ flavorMark flavor) := rfl
  have keyed : Keyed "data".toList (Line.record flavor address).text
      (" (struct class_ro_t *)".toList ++ flavorMark flavor) :=
    keyed_keyedText (by decide) (stops_word (by decide))
  obtain ⟨spaced, found, foundWord, foundSpaces, foundAddress⟩ := (keyed_iff isWord).mp keyed
  have pointer : afterSpaces? (" ".toList ++ ("(struct class_ro_t *)".toList ++ flavorMark flavor)) =
      some ("(struct class_ro_t *)".toList ++ flavorMark flavor) :=
    afterSpaces?_append (by decide) (stops_word (by decide))
  rw [tail] at foundAddress
  simp only [afterRecordPointer?, bind, foundWord, foundSpaces, foundAddress, pointer,
    Option.bind_some, after?_append]

/-- Every line plays the part for records that it is written for. -/
theorem lineRole_text (line : Line) : lineRole line.text = line.role := by
  have opens := startsWith_text line "data" (by decide)
  have closes := startsWith_text line "baseProtocols" (by decide)
  have announces := startsWith_text line "Contents of" (by decide)
  cases line with
  | record flavor address =>
      rw [lineRole, afterRecordPointer?_record]
      cases flavor with
      | native => rfl
      | bridged => rfl
  | filler | header | className | baseMethods | methodName | types | strippedImp | symbolImp
  | baseProtocols | ivarName | ivarType | classReference | selectorReference =>
      rw [lineRole, afterRecordPointer?_eq_none opens]
      simp only [closes, announces]
      rfl

theorem noSection_text {line : Line} (notHeader : line.lead ≠ "Contents of") :
    NoSection line.text := by
  rw [NoSection, startsWith_text line "Contents of" (by decide)]
  exact decide_eq_false notHeader.symm

theorem single_text (line : Line) : SingleLine line.text := by
  have blank : SingleLine " ".toList := by decide
  cases line with
  | filler ignored => exact ignored.single
  | header segment kind =>
      have opening : SingleLine "Contents of (".toList := by decide
      have comma : SingleLine ",".toList := by decide
      have closing : SingleLine ") section".toList := by decide
      exact (((opening.append (segment.isWord.single)).append comma).append
        (kind.isWord.single)).append closing
  | record flavor address =>
      refine single_keyedText (by decide) (by decide) ?_
      cases flavor with
      | native => decide
      | bridged => decide
  | className address token | methodName address token | ivarName address token =>
      exact single_keyedText (by decide) (by decide) (blank.append token.single)
  | types address encoding | ivarType address encoding =>
      exact single_keyedText (by decide) (by decide) (blank.append encoding.single)
  | baseMethods | strippedImp | baseProtocols =>
      exact single_keyedText (by decide) (by decide) (by decide)
  | symbolImp address sign owner selector closable =>
      have signSingle : SingleLine sign.mark := by
        cases sign with
        | ofInstance => decide
        | ofClass => decide
      have opening : SingleLine "[".toList := by decide
      have closing : SingleLine "]".toList := by decide
      exact single_keyedText (by decide) (by decide)
        (blank.append (signSingle.append (opening.append (owner.single.append (blank.append
          (selector.single.append closing))))))
  | classReference place address token =>
      have zero : SingleLine "0x".toList := by decide
      have mark : SingleLine "_OBJC_CLASS_$_".toList := by decide
      exact place.single.append (blank.append (zero.append (address.single.append
        (blank.append (mark.append token.single)))))
  | selectorReference place selector =>
      have gap : SingleLine "  ".toList := by decide
      have mark : SingleLine selectorMark := by decide
      exact place.single.append (gap.append (mark.append selector.single))

theorem classReference?_text (place address : Address) (token : Token) :
    classReference? (Line.classReference place address token).text = some token.name := by
  refine classReference?_eq_some_iff.mpr ⟨[], place.digits, " ".toList, address.digits, " ".toList,
    [], ?_, by decide, place.isHex, by decide, address.isHex, by decide, ?_, stops_nil⟩
  · simp only [Line.text, Token.toList_name, List.append_assoc, List.append_nil, List.nil_append]
  · rw [Token.toList_name]
    exact token.isWord

end DeadSymbols.Dump.Printed
