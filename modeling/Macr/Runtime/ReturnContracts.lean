import Macr.Lib.JsonText
import Macr.Runtime.Execution

/-!
# Return contracts

What a caller asks of an answer, and whether an answer keeps to it. Answers and contract texts are
arbitrary strings here, surrogates included, and the reader of JSON is the one of the library: it
accepts the constants that the standard leaves out, and it raises on integers and nestings that the
interpreter does not read.
-/

namespace Macr.Answers

open Lib Lib.JsonText

/-- What the validation depends on besides its arguments. -/
structure Interpreter where
  /-- `sys.get_int_max_str_digits`; zero bounds nothing. -/
  maxDigits : Nat
  /-- How many brackets the reader may have open before it raises `RecursionError`. -/
  nesting : Nat
  /-- A character of `\w`. -/
  isWord : Nat → Bool
  /-- One bracket can be opened. -/
  nesting_pos : 0 < nesting

/-! ## Contracts -/

/-- `str.isspace` of a code point. -/
def isSpaceCode (code : Nat) : Bool :=
  (9 ≤ code && code ≤ 13) || (28 ≤ code && code ≤ 32) || code = 0x85 || code = 0xa0 ||
    code = 0x1680 || (0x2000 ≤ code && code ≤ 0x200a) || code = 0x2028 || code = 0x2029 ||
    code = 0x202f || code = 0x205f || code = 0x3000

/-- `not text.strip()`. -/
def isBlankText (text : Text) : Bool := text.all isSpaceCode

/-- A code point that UTF-8 encodes. -/
def encodable (c : Nat) : Bool := c < 0xD800 || (0xDFFF < c && c ≤ 0x10FFFF)

/-- The bytes of a code point in UTF-8. -/
def utf8Size (c : Nat) : Nat :=
  if c < 0x80 then 1 else if c < 0x800 then 2 else if c < 0x10000 then 3 else 4

/-- `len(text.encode("utf-8"))`. -/
def utf8Length (text : Text) : Nat := (text.map utf8Size).sum

/-- A letter or a digit of ASCII. -/
def isAlphanumeric (c : Nat) : Bool :=
  isDigit c || (code 'a' ≤ c && c ≤ code 'z') || (code 'A' ≤ c && c ≤ code 'Z')

/-- `[A-Za-z0-9.+#_-]{1,64}`. -/
def isLanguage (text : Text) : Bool :=
  text ≠ [] && text.length ≤ 64 &&
    text.all (fun c => isAlphanumeric c ||
      c ∈ [code '.', code '+', code '#', code '_', code '-'])

/-- `str.lower` of a text of ASCII. -/
def lowerAscii (text : Text) : Text :=
  text.map (fun c => if code 'A' ≤ c ∧ c ≤ code 'Z' then c + 32 else c)

/-- `ReturnContract`, as its constructor leaves it. -/
structure ReturnContract where
  /-- A summary is asked for. -/
  summary : Bool
  /-- A patch is allowed. -/
  patch : Bool
  /-- Evidence is asked for. -/
  evidence : Bool
  /-- The format. -/
  format : ReturnFormat
  /-- The exact text asked for. -/
  exactText : Option Text
  /-- The language of a plain source. -/
  language : Option Text
  /-- An exact text is bounded, and UTF-8 encodes it. -/
  exactText_bounded : ∀ text ∈ exactText,
    text ≠ [] ∧ text.all encodable = true ∧ utf8Length text ≤ 65536
  /-- An exact text is there exactly when it is asked for. -/
  exactText_iff : exactText.isSome = true ↔ format = .exactText
  /-- A language is there exactly when a plain source is asked for. -/
  language_iff : language.isSome = true ↔ format = .plainSource
  /-- Nothing else comes with an exact text or a plain source. -/
  alone : format = .exactText ∨ format = .plainSource →
    summary = false ∧ evidence = false ∧ patch = false

/-- `ReturnContract.__post_init__`. -/
def ReturnContract.make (summary patch evidence : Bool) (format : ReturnFormat)
    (exactText language : Option Text) : Except MacrError ReturnContract :=
  if empty : exactText = some [] then
    .error (.valueError "return_contract.exact_text must be bounded non-empty text")
  else if lone : ∃ text ∈ exactText, text.all encodable = false then
    .error (.other "UnicodeEncodeError")
  else if long : ∃ text ∈ exactText, 65536 < utf8Length text then
    .error (.valueError "return_contract.exact_text must be bounded non-empty text")
  else if ∃ name ∈ language, isLanguage name = false then
    .error (.valueError "return_contract.language is invalid")
  else if missing : format = .exactText ∧ exactText = none then
    .error (.valueError "return_contract exact_text format requires exact_text")
  else if format = .exactText ∧ language ≠ none then
    .error (.valueError "return_contract exact_text format may not define language")
  else if more : format = .exactText ∧ (summary = true ∨ evidence = true ∨ patch = true) then
    .error (.valueError "return_contract exact_text format forbids summary, evidence, and patch")
  else if other : format ≠ .exactText ∧ exactText ≠ none then
    .error (.valueError "return_contract exact_text is allowed only for exact_text format")
  else if missing' : format = .plainSource ∧ language = none then
    .error (.valueError "return_contract plain_source format requires language")
  else if more' : format = .plainSource ∧ (summary = true ∨ evidence = true ∨ patch = true) then
    .error (.valueError "return_contract plain_source format forbids summary, evidence, and patch")
  else if other' : format ≠ .plainSource ∧ language ≠ none then
    .error (.valueError "return_contract language is allowed only for plain_source format")
  else .ok
    { summary := summary
      patch := patch
      evidence := evidence
      format := format
      exactText := exactText
      language := language.map lowerAscii
      exactText_bounded := by
        intro text given
        refine ⟨?_, ?_, ?_⟩
        · rintro rfl
          exact empty given
        · exact Bool.not_eq_false _ |>.mp (fun surrogate => lone ⟨text, given, surrogate⟩)
        · exact Nat.le_of_not_lt (fun bound => long ⟨text, given, bound⟩)
      exactText_iff := by
        rw [Option.isSome_iff_ne_none]
        exact ⟨fun given => by_contra (fun odd => other ⟨odd, given⟩),
          fun asked none => missing ⟨asked, none⟩⟩
      language_iff := by
        rw [Option.isSome_map, Option.isSome_iff_ne_none]
        exact ⟨fun given => by_contra (fun odd => other' ⟨odd, given⟩),
          fun asked none => missing' ⟨asked, none⟩⟩
      alone := by
        rintro (exact | plain)
        · simp only [exact, true_and, not_or, Bool.not_eq_true] at more
          exact more
        · simp only [plain, true_and, not_or, Bool.not_eq_true] at more'
          exact more' }

/-! ## Patterns -/

/-- The texts that may be left behind a match at the front of a text. -/
abbrev Matcher := Text → List Text

namespace Matcher

/-- One pattern behind another. -/
def seq (first second : Matcher) : Matcher := fun text => (first text).flatMap second

/-- One of two patterns. -/
def alt (first second : Matcher) : Matcher := fun text => first text ++ second text

/-- A pattern or nothing. -/
def opt (pattern : Matcher) : Matcher := fun text => text :: pattern text

/-- `\s*`. -/
def spaces : Matcher
  | [] => [[]]
  | c :: rest => (c :: rest) :: if isSpaceCode c then spaces rest else []

/-- `\s+`. -/
def someSpaces : Matcher
  | [] => []
  | c :: rest => if isSpaceCode c then spaces rest else []

/-- A code point as `re.IGNORECASE` compares it with a letter of ASCII: the dotted and the dotless
i, the long s and the Kelvin sign are the letters outside ASCII that match one. -/
def folded (c : Nat) : Nat :=
  if code 'A' ≤ c ∧ c ≤ code 'Z' then c + 32
  else if c = 0x130 ∨ c = 0x131 then code 'i'
  else if c = 0x17F then code 's'
  else if c = 0x212A then code 'k'
  else c

/-- A text of ASCII, in either case. -/
def word : Text → Matcher
  | [], text => [text]
  | _ :: _, [] => []
  | letter :: letters, c :: rest => if folded c = folded letter then word letters rest else []

/-- `\b` behind a letter. -/
def boundary (isWord : Nat → Bool) : Matcher := fun text =>
  if text.head?.any isWord then [] else [text]

/-- `(?:\r?\n|\Z)`. -/
def lineEnd : Matcher
  | [] => [[]]
  | c :: rest =>
    if c = code '\n' then [rest]
    else if c = code '\r' ∧ rest.head? = some (code '\n') then [rest.tail]
    else []

/-- A pattern matches at the front of a text. -/
def matchesAt (pattern : Matcher) (text : Text) : Bool := pattern text ≠ []

end Matcher

open Matcher

/-- The text of a word of a pattern. -/
def spelling (letters : List Char) : Matcher := word (codes letters)

/-- `\s*:\s*(?:\r?\n|\Z)`. -/
def headingEnd : Matcher := seq spaces (seq (word [code ':']) (seq spaces lineEnd))

/-- `(?:source|code)`. -/
def sourceOrCode : Matcher :=
  alt (spelling ['s', 'o', 'u', 'r', 'c', 'e']) (spelling ['c', 'o', 'd', 'e'])

/-- `_PLAIN_SOURCE_WRAPPER`. -/
def plainSourceWrapper (isWord : Nat → Bool) : Matcher :=
  let is := spelling ['i', 's']
  let heres := seq (spelling ['h', 'e', 'r', 'e'])
    (seq (alt (seq (alt (word [code '\'']) (word [0x2019])) (spelling ['s']))
      (seq someSpaces is)) (boundary isWord))
  let belowIs := seq (spelling ['b', 'e', 'l', 'o', 'w'])
    (seq someSpaces (seq is (boundary isWord)))
  let following := seq (spelling ['t', 'h', 'e'])
    (seq someSpaces (seq (spelling ['f', 'o', 'l', 'l', 'o', 'w', 'i', 'n', 'g'])
      (boundary isWord)))
  let source := seq (opt (seq (spelling ['p', 'l', 'a', 'i', 'n']) someSpaces))
    (seq sourceOrCode headingEnd)
  seq spaces (alt heres (alt belowIs (alt following source)))

/-- The pattern of a heading that names a language. -/
def labelWrapper (label : Text) : Matcher :=
  seq spaces (seq (word label) (seq (opt (seq someSpaces sourceOrCode)) headingEnd))

/-- `_LANGUAGE_LABELS`. -/
def languageLabels : List (Text × Text) :=
  [(codes ['c', 's', 'h', 'a', 'r', 'p'], codes ['C', '#']),
    (codes ['j', 'a', 'v', 'a', 's', 'c', 'r', 'i', 'p', 't'],
      codes ['J', 'a', 'v', 'a', 'S', 'c', 'r', 'i', 'p', 't']),
    (codes ['t', 'y', 'p', 'e', 's', 'c', 'r', 'i', 'p', 't'],
      codes ['T', 'y', 'p', 'e', 'S', 'c', 'r', 'i', 'p', 't'])]

/-- `_has_plain_source_wrapper`. -/
def hasPlainSourceWrapper (isWord : Nat → Bool) (language : Option Text) (answer : Text) : Bool :=
  (plainSourceWrapper isWord).matchesAt answer ||
    match language with
    | none => false
    | some language =>
      [language, (languageLabels.lookup language).getD language].any
        (fun label => (labelWrapper label).matchesAt answer)

/-- "```". -/
def fence : Matcher := word [code '`', code '`', code '`']

/-- `^\s*(?:evidence|warnings?)\s*:`, at the start of a line. -/
def proseHeading : Matcher :=
  seq spaces (seq (alt (spelling ['e', 'v', 'i', 'd', 'e', 'n', 'c', 'e'])
    (seq (spelling ['w', 'a', 'r', 'n', 'i', 'n', 'g']) (opt (spelling ['s']))))
    (seq spaces (word [code ':'])))

/-- A pattern matches somewhere in a text. -/
def searches (pattern : Matcher) : Text → Bool
  | [] => pattern.matchesAt []
  | c :: rest => pattern.matchesAt (c :: rest) || searches pattern rest

/-- A pattern matches behind a line feed of a text. -/
def searchesLines (pattern : Matcher) : Text → Bool
  | [] => false
  | c :: rest => (c = code '\n' && pattern.matchesAt rest) || searchesLines pattern rest

/-- `prohibited`. -/
def prohibited (isWord : Nat → Bool) (language : Option Text) (answer : Text) : Bool :=
  searches fence answer || proseHeading.matchesAt answer || searchesLines proseHeading answer ||
    hasPlainSourceWrapper isWord language answer

/-! ## Validation -/

/-- What the validation makes of a reading of JSON; another error is raised. -/
def validateReading : Except ReadError Document → Except MacrError ReturnContractValidation
  | .ok (.object _) => .ok ⟨.valid, "json_object_valid"⟩
  | .ok _ => .ok ⟨.invalid, "json_not_object"⟩
  | .error .duplicateKey => .ok ⟨.invalid, "json_duplicate_key"⟩
  | .error .malformed => .ok ⟨.invalid, "json_invalid"⟩
  | .error .overlong => .error (.other "ValueError")
  | .error .tooDeep => .error (.other "RecursionError")

/-- `validate_return_contract`. -/
def validateReturnContract (interpreter : Interpreter) (contract : ReturnContract)
    (answer : Text) : Except MacrError ReturnContractValidation :=
  if isBlankText answer then .ok ⟨.invalid, "answer_blank"⟩
  else
    match contract.format with
    | .exactText =>
      if contract.exactText = some answer then .ok ⟨.valid, "exact_text_match"⟩
      else .ok ⟨.invalid, "exact_text_mismatch"⟩
    | .plainSource =>
      if prohibited interpreter.isWord contract.language answer then
        .ok ⟨.invalid, "plain_source_has_fence_or_prose"⟩
      else .ok ⟨.valid, "plain_source_valid"⟩
    | .jsonObject =>
      validateReading (loads interpreter.maxDigits interpreter.nesting answer)
    | .freeText => .ok ⟨.valid, "free_text_nonblank"⟩

/-- The answer keeps the contract. -/
def Valid (interpreter : Interpreter) (contract : ReturnContract) (answer : Text) : Prop :=
  ∃ reason, validateReturnContract interpreter contract answer = .ok ⟨.valid, reason⟩

/-- A JSON object of the standard. -/
def StandardObject (answer : Text) : Prop :=
  ∃ members, WritesAny (.object members) answer ∧ ¬Mentions (.object members)

/-- What a contract promises of an answer. -/
structure Keeps (interpreter : Interpreter) (contract : ReturnContract) (answer : Text) : Prop where
  /-- There is a verdict. -/
  returns : ∃ validation, validateReturnContract interpreter contract answer = .ok validation
  /-- An exact text is kept by that text. -/
  exact : contract.format = .exactText →
    (Valid interpreter contract answer ↔ contract.exactText = some answer)
  /-- A JSON object is kept by the objects of the standard. -/
  json : contract.format = .jsonObject →
    (Valid interpreter contract answer ↔ StandardObject answer)
  /-- Some answer keeps the contract. -/
  satisfiable : ∃ other, Valid interpreter contract other

/-- Where a contract is kept to its promise: an exact text is not blank, and the reader of JSON
meets no bound in the answer and no constant in an object. -/
def Reliable (interpreter : Interpreter) (contract : ReturnContract) (answer : Text) : Prop :=
  match contract.format with
  | .exactText => ∀ text ∈ contract.exactText, isBlankText text = false
  | .jsonObject => ¬OverrunsText interpreter.maxDigits interpreter.nesting answer ∧
      ∀ members, WritesAny (.object members) answer → ¬Mentions (.object members)
  | .plainSource | .freeText => True

/-! ## Verdicts -/

variable {interpreter : Interpreter} {contract : ReturnContract} {answer : Text}

/-- A contract for an exact text names it. -/
theorem exactText_of_format (format : contract.format = .exactText) :
    ∃ text, contract.exactText = some text :=
  Option.isSome_iff_exists.mp (contract.exactText_iff.mpr format)

/-- An exact text is kept by itself, unless it is blank. -/
theorem valid_exactText (format : contract.format = .exactText) :
    Valid interpreter contract answer ↔
      contract.exactText = some answer ∧ isBlankText answer = false := by
  unfold Valid validateReturnContract
  rw [format]
  cases blank : isBlankText answer with
  | true => simp
  | false =>
    by_cases same : contract.exactText = some answer
    · simp [same]
    · simp [same]

/-- A text that opens somewhere is not blank. -/
theorem not_blank_of_opens {before used behind : Text} (opens : Opens used) :
    isBlankText (before ++ (used ++ behind)) = false := by
  obtain ⟨c, rest, rfl, _, _, _, graphic⟩ := opens
  have printed : isSpaceCode c = false := by
    simp only [isGraphic, Bool.and_eq_true, decide_eq_true_eq] at graphic
    simp only [isSpaceCode, Bool.or_eq_false_iff, Bool.and_eq_false_iff, decide_eq_false_iff_not]
    omega
  rw [isBlankText, List.all_eq_false]
  exact ⟨c, by simp, by simp [printed]⟩

/-- White space writes no document. -/
theorem not_blank_of_writesAny {document : Document} (written : WritesAny document answer) :
    isBlankText answer = false := by
  obtain ⟨depth, before, used, behind, _, _, written, rfl⟩ := written
  exact not_blank_of_opens ((value_reads 0 depth).opens written)

/-- White space meets no bound. -/
theorem not_blank_of_overruns {digits depth : Nat} (overruns : OverrunsText digits depth answer) :
    isBlankText answer = false := by
  obtain ⟨before, rest, _, overruns, rfl⟩ := overruns
  have opens := @not_blank_of_opens before _ []
    ((value_reads digits depth).overruns_opens overruns)
  rw [List.append_nil] at opens
  exact opens

/-- A JSON object is kept by what is read as an object. -/
theorem valid_jsonObject (format : contract.format = .jsonObject) :
    Valid interpreter contract answer ↔
      ∃ members,
        loads interpreter.maxDigits interpreter.nesting answer = .ok (.object members) := by
  unfold Valid validateReturnContract
  rw [format]
  cases blank : isBlankText answer with
  | true =>
    constructor
    · rintro ⟨reason, same⟩
      cases same
    · rintro ⟨members, read⟩
      rw [not_blank_of_writesAny (writesAny_of_loads read)] at blank
      cases blank
  | false =>
    simp only [Bool.false_eq_true, if_false]
    constructor
    · rintro ⟨reason, done⟩
      cases read : loads interpreter.maxDigits interpreter.nesting answer with
      | error error =>
        rw [read] at done
        cases error <;> cases done
      | ok document =>
        rw [read] at done
        cases document with
        | object members => exact ⟨members, rfl⟩
        | _ => cases done
    · rintro ⟨members, read⟩
      exact ⟨"json_object_valid", by rw [read]; rfl⟩

/-- A verdict on a JSON object is missing exactly when its reading meets a bound. -/
theorem returns_jsonObject (format : contract.format = .jsonObject) :
    (∃ validation, validateReturnContract interpreter contract answer = .ok validation) ↔
      ¬OverrunsText interpreter.maxDigits interpreter.nesting answer := by
  unfold validateReturnContract
  rw [format]
  cases blank : isBlankText answer with
  | true =>
    refine ⟨fun _ overruns => ?_, fun _ => ⟨_, rfl⟩⟩
    rw [not_blank_of_overruns overruns] at blank
    cases blank
  | false =>
    simp only [Bool.false_eq_true, if_false]
    rw [← loads_bounds]
    cases read : loads interpreter.maxDigits interpreter.nesting answer with
    | ok document =>
      refine ⟨fun _ => fun ⟨_, _, met⟩ => (by cases met), fun _ => ?_⟩
      cases document <;> exact ⟨_, rfl⟩
    | error error =>
      have met : (∃ other, other.bounds = true ∧
          (Except.error error : Except ReadError Document) = .error other) ↔
            error.bounds = true :=
        ⟨fun ⟨_, bounds, same⟩ => (Except.error.inj same) ▸ bounds, fun bounds =>
          ⟨error, bounds, rfl⟩⟩
      rw [met]
      cases error with
      | malformed => exact ⟨fun _ => Bool.false_ne_true, fun _ => ⟨_, rfl⟩⟩
      | duplicateKey => exact ⟨fun _ => Bool.false_ne_true, fun _ => ⟨_, rfl⟩⟩
      | overlong => exact ⟨fun ⟨_, done⟩ => (by cases done), fun spared => absurd rfl spared⟩
      | tooDeep => exact ⟨fun ⟨_, done⟩ => (by cases done), fun spared => absurd rfl spared⟩

/-- Other formats always get a verdict. -/
theorem returns_of_format (format : contract.format ≠ .jsonObject) :
    ∃ validation, validateReturnContract interpreter contract answer = .ok validation := by
  unfold validateReturnContract
  split
  · exact ⟨_, rfl⟩
  · split
    · split <;> exact ⟨_, rfl⟩
    · split <;> exact ⟨_, rfl⟩
    · rename_i json
      exact absurd json format
    · exact ⟨_, rfl⟩

/-! ## Answers that keep a contract -/

/-- The answer that is a zero. -/
def zeroAnswer : Text := [code '0']

/-- The answer that is an empty object. -/
def emptyObject : Text := [code '{', code '}']

/-- No language is named by a zero and a colon. -/
theorem labelWrapper_zero (label : Text) : (labelWrapper label).matchesAt zeroAnswer = false := by
  have whole : labelWrapper label zeroAnswer = (word label zeroAnswer).flatMap
      (seq (opt (seq someSpaces sourceOrCode)) headingEnd) ++ [] := rfl
  have left : word label zeroAnswer ∈ [[zeroAnswer], [[]], []] := by
    cases label with
    | nil => exact List.mem_cons_self
    | cons letter more =>
      by_cases same : folded (code '0') = folded letter
      · have next : word (letter :: more) zeroAnswer = word more [] := if_pos same
        rw [next]
        cases more with
        | nil => exact List.mem_cons_of_mem _ List.mem_cons_self
        | cons other rest =>
          exact List.mem_cons_of_mem _ (List.mem_cons_of_mem _ List.mem_cons_self)
      · have none : word (letter :: more) zeroAnswer = [] := if_neg same
        rw [none]
        exact List.mem_cons_of_mem _ (List.mem_cons_of_mem _ List.mem_cons_self)
  rw [matchesAt, whole]
  simp only [List.mem_cons, List.not_mem_nil, or_false] at left
  rcases left with left | left | left <;> rw [left] <;> rfl

/-- A zero is a plain source in every language. -/
theorem prohibited_zero (isWord : Nat → Bool) (language : Option Text) :
    prohibited isWord language zeroAnswer = false := by
  have fenced : searches fence zeroAnswer = false := by decide
  have headed : proseHeading.matchesAt zeroAnswer = false := by decide
  have lined : searchesLines proseHeading zeroAnswer = false := by decide
  have wrapped : (plainSourceWrapper isWord).matchesAt zeroAnswer = false := rfl
  have labelled : hasPlainSourceWrapper isWord language zeroAnswer = false := by
    cases language with
    | none => simp [hasPlainSourceWrapper, wrapped]
    | some language => simp [hasPlainSourceWrapper, wrapped, labelWrapper_zero]
  simp [prohibited, fenced, headed, lined, labelled]

/-- An empty object is read wherever a bracket can be opened. -/
theorem loads_emptyObject (digits : Nat) {depth : Nat} (room : 0 < depth) :
    loads digits depth emptyObject = .ok (.object []) := by
  obtain ⟨less, rfl⟩ := Nat.exists_eq_succ_of_ne_zero (Nat.ne_of_gt room)
  rfl

/-- A contract can be kept, unless it asks for a blank text. -/
theorem satisfiable_iff (interpreter : Interpreter) (contract : ReturnContract) :
    (∃ other, Valid interpreter contract other) ↔
      (contract.format = .exactText → ∀ text ∈ contract.exactText, isBlankText text = false) := by
  cases format : contract.format with
  | exactText =>
    simp only [valid_exactText format]
    constructor
    · rintro ⟨other, named, printed⟩ _ text given
      rw [named] at given
      exact (Option.some.inj given) ▸ printed
    · intro printed
      obtain ⟨text, named⟩ := exactText_of_format format
      exact ⟨text, named, printed trivial text named⟩
  | plainSource =>
    refine ⟨fun _ absurd => (by cases absurd), fun _ => ⟨zeroAnswer, "plain_source_valid", ?_⟩⟩
    have printed : isBlankText zeroAnswer = false := by decide
    simp only [validateReturnContract, printed, format, prohibited_zero, Bool.false_eq_true,
      if_false]
  | jsonObject =>
    refine ⟨fun _ absurd => (by cases absurd), fun _ => ⟨emptyObject, ?_⟩⟩
    exact (valid_jsonObject format).mpr ⟨[], loads_emptyObject _ interpreter.nesting_pos⟩
  | freeText =>
    refine ⟨fun _ absurd => (by cases absurd), fun _ => ⟨zeroAnswer, "free_text_nonblank", ?_⟩⟩
    have printed : isBlankText zeroAnswer = false := by decide
    simp only [validateReturnContract, printed, format, Bool.false_eq_true, if_false]

/-- A blank text may be asked for, and no answer keeps that contract. -/
example :
    (ReturnContract.make false false false .exactText (some [code ' ']) none).isOk = true := by
  decide

/-! ## The promise -/

/-- An object that is read is of the standard exactly when it mentions no constant. -/
theorem standardObject_iff {digits depth : Nat} {members : List (Text × Document)}
    (read : loads digits depth answer = .ok (.object members)) :
    StandardObject answer ↔ ¬Mentions (.object members) := by
  constructor
  · rintro ⟨others, written, plain⟩
    rcases loads_of_writesAny digits depth written with same | overruns
    · rw [read] at same
      cases same
      exact plain
    · obtain ⟨error, _, met⟩ := loads_bounds.mpr overruns
      rw [read] at met
      cases met
  · exact fun plain => ⟨members, writesAny_of_loads read, plain⟩

/-- The code points of a text of Unicode scalars. -/
def textOf (text : String) : Text := text.toList.map code

/-- What the validation within an invocation reads an answer with. -/
def answerReaders (interpreter : Interpreter) : AnswerReaders where
  prohibited := fun language answer =>
    prohibited interpreter.isWord (language.map textOf) (textOf answer)
  loads := fun answer =>
    match loads interpreter.maxDigits interpreter.nesting (textOf answer) with
    | .ok (.object _) => .object
    | .ok _ => .other
    | .error .duplicateKey => .duplicateKey
    | .error .malformed => .malformed
    | .error .overlong => .raised "ValueError"
    | .error .tooDeep => .raised "RecursionError"

/-- Two texts of the same code points are the same. -/
theorem textOf_injective {left right : String} (same : textOf left = textOf right) :
    left = right := by
  have lists : left.toList = right.toList :=
    List.map_injective_iff.mpr (fun _ _ equal => Char.toNat_inj.mp equal) same
  exact String.toList_injective lists

/-- A text that is stripped to nothing is blank. -/
theorem strip_eq_empty_iff (text : String) :
    strip text = "" ↔ isBlankText (textOf text) = true := by
  have spaces : isBlankText (textOf text) = true ↔ ∀ c ∈ text.toList, isSpace c = true := by
    rw [isBlankText, textOf, List.all_map, List.all_eq_true]
    rfl
  rw [spaces]
  constructor
  · intro empty c member
    by_contra other
    have kept : (text.toList.dropWhile isSpace) ≠ [] := by
      intro none
      exact other (List.dropWhile_eq_nil_iff.mp none c member)
    have trimmed : ((text.toList.dropWhile isSpace).reverse.dropWhile isSpace).reverse = [] := by
      have same := congrArg String.toList empty
      rw [strip, String.toList_ofList] at same
      exact same
    rw [List.reverse_eq_nil_iff, List.dropWhile_eq_nil_iff] at trimmed
    have first := List.head_mem kept
    have odd : isSpace ((text.toList.dropWhile isSpace).head kept) = false :=
      List.head_dropWhile_not isSpace kept
    rw [trimmed _ (List.mem_reverse.mpr first)] at odd
    cases odd
  · intro white
    rw [strip, List.dropWhile_eq_nil_iff.mpr white]
    rfl

/-- An interpreter with the bounds of its installation. -/
def sampleInterpreter : Interpreter where
  maxDigits := 4300
  nesting := 900
  isWord := isAlphanumeric
  nesting_pos := by decide

/-- A contract for a JSON object. -/
def objectContract : ReturnContract where
  summary := true
  patch := false
  evidence := true
  format := .jsonObject
  exactText := none
  language := none
  exactText_bounded := fun _ given => by cases given
  exactText_iff := by decide
  language_iff := by decide
  alone := by decide

/-- The answer that is an object with a constant outside the standard. -/
def nanAnswer : Text :=
  [code '{', code '"', code 'a', code '"', code ':', code 'N', code 'a', code 'N', code '}']

end Macr.Answers
