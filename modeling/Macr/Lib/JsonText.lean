import Macr.Lib.JsonTokens
import Mathlib.Data.List.Infix

/-!
# Reading a JSON text

The grammar of JSON with the three constants that are not numbers, and the reader of it. A reader
is bounded: it refuses integers of more than so many digits and a nesting of more than so many
brackets, and it does so as soon as it meets one, before it looks at the rest of the text. The laws
of a reader say what it returns, what it reads, and when it runs into a bound; each combinator
keeps them.
-/

namespace Macr.Lib.JsonText

/-- Why a text is not read. -/
inductive ReadError where
  /-- It is not of the grammar. -/
  | malformed
  /-- An object has a key twice. -/
  | duplicateKey
  /-- An integer has too many digits. -/
  | overlong
  /-- Too many brackets are open. -/
  | tooDeep
deriving DecidableEq, Repr

/-- The errors that say that a bound was met. -/
def ReadError.bounds : ReadError → Bool
  | .overlong | .tooDeep => true
  | .malformed | .duplicateKey => false

/-- The constants outside the standard. -/
inductive Constant where
  | nan
  | infinity
  | negativeInfinity
deriving DecidableEq, Repr

/-- What a text writes. -/
inductive Document where
  | null
  | bool (value : Bool)
  | constant (value : Constant)
  | number (value : Numeral)
  | string (value : Text)
  | array (items : List Document)
  | object (members : List (Text × Document))

/-- The values that are written as words. -/
def words : List (Text × Document) :=
  [(codes ['n', 'u', 'l', 'l'], .null), (codes ['t', 'r', 'u', 'e'], .bool true),
    (codes ['f', 'a', 'l', 's', 'e'], .bool false), (codes ['N', 'a', 'N'], .constant .nan),
    (codes ['I', 'n', 'f', 'i', 'n', 'i', 't', 'y'], .constant .infinity),
    (codes ['-', 'I', 'n', 'f', 'i', 'n', 'i', 't', 'y'], .constant .negativeInfinity)]

/-! ## Readers and their laws -/

variable {α β : Type}

/-- A reader takes a value from the front of a text and leaves the rest. -/
abbrev Reader (α : Type) := Text → Except ReadError (α × Text)

/-- The mark that a text may not start with. -/
def byteOrderMark : Nat := 0xFEFF

/-- A printed character of ASCII other than the space. -/
def isGraphic (c : Nat) : Bool := 32 < c && c < 127

/-- A text that starts with a printed character other than a closing bracket. -/
def Opens (text : Text) : Prop :=
  ∃ c rest, text = c :: rest ∧ isBlank c = false ∧ c ≠ code ']' ∧ c ≠ code '}' ∧
    isGraphic c = true

/-- A text that opens is solid. -/
theorem Opens.solid {text : Text} (opens : Opens text) : Solid text := by
  obtain ⟨c, rest, rfl, dense, _⟩ := opens
  exact ⟨c, rest, rfl, dense⟩

/-- A text that goes on from one that opens, opens. -/
theorem Opens.append {text : Text} (opens : Opens text) (rest : Text) : Opens (text ++ rest) := by
  obtain ⟨c, more, rfl, dense⟩ := opens
  exact ⟨c, more ++ rest, rfl, dense⟩

/-- The laws of a reader: it reads what is written, returns only what is written, and meets a bound
on the texts that overrun it. -/
structure Reads (read : Reader α) (Written : α → Text → Prop) (Overruns : Text → Prop) : Prop where
  /-- What is returned was written. -/
  sound : ∀ {text value rest}, read text = .ok (value, rest) →
    ∃ used, text = used ++ rest ∧ Written value used
  /-- What is written is returned. -/
  complete : ∀ {value used rest}, Written value used → Delimited rest →
    read (used ++ rest) = .ok (value, rest)
  /-- A bound is met on a text that overruns it. -/
  overrun : ∀ {text}, (∃ error, error.bounds = true ∧ read text = .error error) ↔ Overruns text
  /-- A value starts with neither white space nor a closing bracket. -/
  opens : ∀ {value used}, Written value used → Opens used
  /-- Nor does a text that overruns a bound. -/
  overruns_opens : ∀ {text}, Overruns text → Opens text

/-- Values between commas, up to a closing mark. -/
def series (element : Reader α) (closing : Nat) : Nat → Reader (List α)
  | 0, _ => .error .malformed
  | fuel + 1, text =>
    match element text with
    | .error error => .error error
    | .ok (value, rest) =>
      match skip rest with
      | [] => .error .malformed
      | mark :: rest =>
        if mark = closing then .ok ([value], rest)
        else if mark = code ',' then
          match series element closing fuel (skip rest) with
          | .error error => .error error
          | .ok (values, rest) => .ok (value :: values, rest)
        else .error .malformed

/-- Values between commas, up to a closing mark, in the grammar. -/
inductive Series (Written : α → Text → Prop) (closing : Nat) : List α → Text → Prop
  /-- The last value. -/
  | last {value : α} {used blank : Text} (written : Written value used) (white : Blank blank) :
      Series Written closing [value] (used ++ (blank ++ [closing]))
  /-- A value before others. -/
  | more {value : α} {values : List α} {used before behind rest : Text}
      (written : Written value used) (white : Blank before) (white' : Blank behind)
      (others : Series Written closing values rest) :
      Series Written closing (value :: values) (used ++ (before ++ code ',' :: (behind ++ rest)))

/-- A series one of whose values overruns a bound. -/
inductive SeriesOverruns (Written : α → Text → Prop) (Overruns : Text → Prop) : Text → Prop
  /-- The first. -/
  | here {text : Text} (overruns : Overruns text) : SeriesOverruns Written Overruns text
  /-- A later one. -/
  | later {value : α} {used before behind rest : Text} (written : Written value used)
      (white : Blank before) (white' : Blank behind)
      (others : SeriesOverruns Written Overruns rest) :
      SeriesOverruns Written Overruns (used ++ (before ++ code ',' :: (behind ++ rest)))

section SeriesLaws

variable {read : Reader α} {Written : α → Text → Prop} {Overruns : Text → Prop} {closing : Nat}

/-- A mark is solid. -/
theorem solid_mark {mark : Nat} (marks : mark = code ',' ∨ mark = code ']' ∨ mark = code '}')
    (rest : Text) : Solid (mark :: rest) := by
  refine ⟨mark, rest, rfl, ?_⟩
  rcases marks with rfl | rfl | rfl <;> decide

/-- A series starts with a value. -/
theorem opens_of_series (laws : Reads read Written Overruns) {values : List α} {used : Text}
    (written : Series Written closing values used) : Opens used := by
  cases written with
  | last written white => exact (laws.opens written).append _
  | more written white white' others => exact (laws.opens written).append _

/-- So does one that overruns a bound. -/
theorem opens_of_seriesOverruns (laws : Reads read Written Overruns) {text : Text}
    (overruns : SeriesOverruns Written Overruns text) : Opens text := by
  cases overruns with
  | here overruns => exact laws.overruns_opens overruns
  | later written white white' others => exact (laws.opens written).append _

/-- A solid text is not empty. -/
theorem length_pos_of_solid {text : Text} (solid : Solid text) : 0 < text.length := by
  obtain ⟨c, rest, rfl, _⟩ := solid
  exact Nat.succ_pos _

/-- A series that is returned was written. -/
theorem series_sound (laws : Reads read Written Overruns) {fuel : Nat} {text rest : Text}
    {values : List α} (done : series read closing fuel text = .ok (values, rest)) :
    ∃ used, text = used ++ rest ∧ Series Written closing values used := by
  induction fuel generalizing text values with
  | zero => cases done
  | succ fuel ih =>
    rw [series] at done
    split at done
    · cases done
    · rename_i value behind first
      obtain ⟨used, rfl, written⟩ := laws.sound first
      obtain ⟨blank, white, split_rest⟩ := exists_blank behind
      split at done
      · cases done
      · rename_i mark more marked
        rw [marked] at split_rest
        split at done
        · rename_i closes
          cases done
          subst closes
          refine ⟨used ++ (blank ++ [mark]), ?_, .last written white⟩
          rw [split_rest]
          simp only [List.append_assoc, List.cons_append, List.nil_append]
        · split at done
          · rename_i comma
            subst comma
            split at done
            · cases done
            · rename_i others last later
              cases done
              obtain ⟨used', same, series⟩ := ih later
              obtain ⟨blank', white', split_more⟩ := exists_blank more
              refine ⟨used ++ (blank ++ code ',' :: (blank' ++ used')), ?_,
                .more written white white' series⟩
              rw [split_rest, split_more, same]
              simp only [List.append_assoc, List.cons_append]
          · cases done

/-- A series that is written is returned. -/
theorem series_complete (laws : Reads read Written Overruns)
    (closes : closing = code ']' ∨ closing = code '}') {values : List α} {used : Text}
    (written : Series Written closing values used) (rest : Text) {fuel : Nat}
    (enough : used.length ≤ fuel) :
    series read closing fuel (used ++ rest) = .ok (values, rest) := by
  induction written generalizing fuel with
  | @last value used blank written white =>
    cases fuel with
    | zero =>
      have inhabited := length_pos_of_solid (laws.opens written).solid
      rw [List.length_append] at enough
      omega
    | succ fuel =>
      have marks : closing = code ',' ∨ closing = code ']' ∨ closing = code '}' := .inr closes
      have first : read (used ++ (blank ++ closing :: rest)) =
          .ok (value, blank ++ closing :: rest) :=
        laws.complete written (delimited_append white rest marks)
      have shape : used ++ (blank ++ [closing]) ++ rest = used ++ (blank ++ closing :: rest) := by
        simp only [List.append_assoc, List.cons_append, List.nil_append]
      rw [shape, series, first]
      simp only [skip_blank_append white (solid_mark marks rest), if_pos]
  | @more value values used before behind last written white white' others ih =>
    cases fuel with
    | zero =>
      have inhabited := length_pos_of_solid (laws.opens written).solid
      rw [List.length_append] at enough
      omega
    | succ fuel =>
      have inhabited := length_pos_of_solid (laws.opens written).solid
      have first : read (used ++ (before ++ code ',' :: (behind ++ (last ++ rest)))) =
          .ok (value, before ++ code ',' :: (behind ++ (last ++ rest))) :=
        laws.complete written (delimited_append white _ (.inl rfl))
      have shape : used ++ (before ++ code ',' :: (behind ++ last)) ++ rest =
          used ++ (before ++ code ',' :: (behind ++ (last ++ rest))) := by
        simp only [List.append_assoc, List.cons_append]
      have other : code ',' ≠ closing := by
        rcases closes with rfl | rfl <;> decide
      have solid : Solid (last ++ rest) := ((opens_of_series laws others).append rest).solid
      have later := @ih fuel (by
        simp only [List.length_append, List.length_cons] at enough
        omega)
      rw [shape, series, first]
      simp only [skip_blank_append white (solid_mark (.inl rfl) _), if_neg other, if_pos,
        skip_blank_append white' solid, later]

/-- A series meets a bound on the texts that overrun it. -/
theorem series_overrun (laws : Reads read Written Overruns)
    (closes : closing = code ']' ∨ closing = code '}') {fuel : Nat} {text : Text}
    (enough : text.length ≤ fuel) :
    (∃ error, error.bounds = true ∧ series read closing fuel text = .error error) ↔
      SeriesOverruns Written Overruns text := by
  constructor
  · rintro ⟨error, bounds, met⟩
    clear enough
    induction fuel generalizing text with
    | zero =>
      cases met
      cases bounds
    | succ fuel ih =>
      rw [series] at met
      split at met
      · rename_i raised first
        cases met
        exact .here (laws.overrun.mp ⟨error, bounds, first⟩)
      · rename_i value behind first
        obtain ⟨used, rfl, written⟩ := laws.sound first
        obtain ⟨blank, white, split_rest⟩ := exists_blank behind
        split at met
        · cases met
          cases bounds
        · rename_i mark more marked
          rw [marked] at split_rest
          split at met
          · cases met
          · split at met
            · rename_i comma
              subst comma
              split at met
              · rename_i raised later
                cases met
                obtain ⟨blank', white', split_more⟩ := exists_blank more
                rw [split_rest, split_more]
                exact .later written white white' (ih later)
              · cases met
            · cases met
              cases bounds
  · intro overruns
    induction overruns generalizing fuel with
    | @here text overruns =>
      cases fuel with
      | zero =>
        have inhabited := length_pos_of_solid (laws.overruns_opens overruns).solid
        omega
      | succ fuel =>
        obtain ⟨error, bounds, met⟩ := laws.overrun.mpr overruns
        refine ⟨error, bounds, ?_⟩
        rw [series, met]
    | @later value used before behind rest written white white' others ih =>
      have inhabited := length_pos_of_solid (laws.opens written).solid
      simp only [List.length_append, List.length_cons] at enough
      cases fuel with
      | zero => omega
      | succ fuel =>
        have first : read (used ++ (before ++ code ',' :: (behind ++ rest))) =
            .ok (value, before ++ code ',' :: (behind ++ rest)) :=
          laws.complete written (delimited_append white _ (.inl rfl))
        have other : code ',' ≠ closing := by
          rcases closes with rfl | rfl <;> decide
        obtain ⟨error, bounds, later⟩ := @ih fuel (by omega)
        refine ⟨error, bounds, ?_⟩
        rw [series, first]
        simp only [skip_blank_append white (solid_mark (.inl rfl) _), if_neg other, if_pos,
          skip_blank_append white' (opens_of_seriesOverruns laws others).solid, later]

end SeriesLaws

/-! ## Brackets -/

/-- Values between commas behind an opening bracket. -/
def bracketed (element : Reader α) (closing : Nat) : Reader (List α) := fun text =>
  match skip text with
  | [] => .error .malformed
  | mark :: rest =>
    if mark = closing then .ok ([], rest)
    else series element closing (mark :: rest).length (mark :: rest)

/-- Values between brackets, behind the opening one. -/
def Bracketed (Written : α → Text → Prop) (closing : Nat) (values : List α) (used : Text) : Prop :=
  (values = [] ∧ ∃ blank, Blank blank ∧ used = blank ++ [closing]) ∨
    ∃ blank rest, Blank blank ∧ used = blank ++ rest ∧ Series Written closing values rest

/-- Values between brackets one of which overruns a bound. -/
def BracketedOverruns (Written : α → Text → Prop) (Overruns : Text → Prop) (text : Text) : Prop :=
  ∃ blank rest, Blank blank ∧ text = blank ++ rest ∧ SeriesOverruns Written Overruns rest

section BracketLaws

variable {read : Reader α} {Written : α → Text → Prop} {Overruns : Text → Prop} {closing : Nat}

/-- Behind a text that opens, no bracket is closed. -/
theorem bracketed_of_opens (closes : closing = code ']' ∨ closing = code '}') {blank text : Text}
    (white : Blank blank) (opens : Opens text) :
    bracketed read closing (blank ++ text) = series read closing text.length text := by
  obtain ⟨c, rest, rfl, dense, square, curly, _⟩ := opens
  have other : c ≠ closing := by
    rcases closes with rfl | rfl
    · exact square
    · exact curly
  simp only [bracketed, skip_blank_append white ⟨c, rest, rfl, dense⟩, if_neg other]

/-- Values between brackets that are returned were written. -/
theorem bracketed_sound (laws : Reads read Written Overruns) {text rest : Text} {values : List α}
    (done : bracketed read closing text = .ok (values, rest)) :
    ∃ used, text = used ++ rest ∧ Bracketed Written closing values used := by
  obtain ⟨blank, white, split_text⟩ := exists_blank text
  unfold bracketed at done
  split at done
  · cases done
  · rename_i mark more marked
    rw [marked] at split_text
    split at done
    · rename_i closes
      cases done
      subst closes
      refine ⟨blank ++ [mark], ?_, .inl ⟨rfl, blank, white, rfl⟩⟩
      rw [split_text, List.append_assoc]
      rfl
    · obtain ⟨used, same, written⟩ := series_sound laws done
      refine ⟨blank ++ used, ?_, .inr ⟨blank, used, white, rfl, written⟩⟩
      rw [split_text, same, List.append_assoc]

/-- Values between brackets that are written are returned. -/
theorem bracketed_complete (laws : Reads read Written Overruns)
    (closes : closing = code ']' ∨ closing = code '}') {values : List α} {used : Text}
    (written : Bracketed Written closing values used) (rest : Text) :
    bracketed read closing (used ++ rest) = .ok (values, rest) := by
  rcases written with ⟨rfl, blank, white, rfl⟩ | ⟨blank, more, white, rfl, written⟩
  · have shape : blank ++ [closing] ++ rest = blank ++ closing :: rest := by
      rw [List.append_assoc]
      rfl
    simp only [shape, bracketed, skip_blank_append white (solid_mark (.inr closes) rest), if_pos]
  · have opens := (opens_of_series laws written).append rest
    have enough : more.length ≤ (more ++ rest).length := by
      rw [List.length_append]
      omega
    rw [List.append_assoc, bracketed_of_opens closes white opens]
    exact series_complete laws closes written rest enough

/-- Values between brackets meet a bound on the texts that overrun it. -/
theorem bracketed_overrun (laws : Reads read Written Overruns)
    (closes : closing = code ']' ∨ closing = code '}') {text : Text} :
    (∃ error, error.bounds = true ∧ bracketed read closing text = .error error) ↔
      BracketedOverruns Written Overruns text := by
  constructor
  · rintro ⟨error, bounds, met⟩
    obtain ⟨blank, white, split_text⟩ := exists_blank text
    unfold bracketed at met
    split at met
    · cases met
      cases bounds
    · rename_i mark more marked
      rw [marked] at split_text
      split at met
      · cases met
      · exact ⟨blank, mark :: more, white, split_text,
          (series_overrun laws closes (Nat.le_refl _)).mp ⟨error, bounds, met⟩⟩
  · rintro ⟨blank, rest, white, rfl, overruns⟩
    rw [bracketed_of_opens closes white (opens_of_seriesOverruns laws overruns)]
    exact (series_overrun laws closes (Nat.le_refl _)).mpr overruns

end BracketLaws

/-! ## Members -/

/-- A key, a colon and a value. -/
def member (value : Reader β) : Reader (Text × β) := fun text =>
  match text with
  | [] => .error .malformed
  | quote :: rest =>
    if quote = code '"' then
      match string? rest with
      | none => .error .malformed
      | some (key, rest) =>
        match skip rest with
        | [] => .error .malformed
        | mark :: rest =>
          if mark = code ':' then
            match value (skip rest) with
            | .error error => .error error
            | .ok (value, rest) => .ok ((key, value), rest)
          else .error .malformed
    else .error .malformed

/-- A key, a colon and a value in the grammar. -/
def Member (Written : β → Text → Prop) (pair : Text × β) (used : Text) : Prop :=
  ∃ quoted before behind rest, Quoted pair.1 quoted ∧ Blank before ∧ Blank behind ∧
    Written pair.2 rest ∧ used = quoted ++ (before ++ code ':' :: (behind ++ rest))

/-- A key and a colon before a text that overruns a bound. -/
def MemberOverruns (Overruns : Text → Prop) (text : Text) : Prop :=
  ∃ key quoted before behind rest, Quoted key quoted ∧ Blank before ∧ Blank behind ∧
    Overruns rest ∧ text = quoted ++ (before ++ code ':' :: (behind ++ rest))

/-- A string opens. -/
theorem opens_of_quoted {text used : Text} (quoted : Quoted text used) (rest : Text) :
    Opens (used ++ rest) := by
  obtain ⟨units, _, _, rfl⟩ := quoted
  exact ⟨code '"', _, rfl, by decide, by decide, by decide, by decide⟩

/-- What is read behind a key and a colon. -/
theorem member_of_quoted (value : Reader β) {key quoted before behind rest : Text}
    (string : Quoted key quoted) (white : Blank before) (white' : Blank behind)
    (solid : Solid rest) :
    member value (quoted ++ (before ++ code ':' :: (behind ++ rest))) =
      match value rest with
      | .error error => .error error
      | .ok (value, rest) => .ok ((key, value), rest) := by
  obtain ⟨text, opened, read⟩ := string?_spelled string (before ++ code ':' :: (behind ++ rest))
  have colon : Solid (code ':' :: (behind ++ rest)) := ⟨code ':', _, rfl, by decide⟩
  rw [opened]
  simp only [member, if_pos, read, skip_blank_append white colon, skip_blank_append white' solid]

/-- A member is malformed, or what its value makes of it. -/
theorem member_cases (value : Reader β) (text : Text) :
    member value text = .error .malformed ∨
      ∃ key quoted before behind rest, Quoted key quoted ∧ Blank before ∧ Blank behind ∧
        text = quoted ++ (before ++ code ':' :: (behind ++ rest)) ∧
        member value text = match value rest with
          | .error error => .error error
          | .ok (value, rest) => .ok ((key, value), rest) := by
  cases text with
  | nil => exact .inl rfl
  | cons quote more =>
    by_cases opened : quote = code '"'
    · subst opened
      cases read : string? more with
      | none => exact .inl (by simp only [member, if_pos, read])
      | some found =>
        obtain ⟨key, last⟩ := found
        obtain ⟨quoted, same, string⟩ := string?_sound read
        obtain ⟨before, white, split_last⟩ := exists_blank last
        cases marked : skip last with
        | nil => exact .inl (by simp only [member, if_pos, read, marked])
        | cons mark rest =>
          by_cases colon : mark = code ':'
          · subst colon
            obtain ⟨behind, white', split_rest⟩ := exists_blank rest
            right
            refine ⟨key, quoted, before, behind, skip rest, string, white, white', ?_, ?_⟩
            · rw [same, split_last, marked, ← split_rest]
            · simp only [member, if_pos, read, marked]
          · exact .inl (by simp only [member, if_pos, read, marked, if_neg colon])
    · exact .inl (by simp only [member, if_neg opened])

/-- The laws of a reader of members. -/
theorem member_reads {value : Reader β} {Written : β → Text → Prop} {Overruns : Text → Prop}
    (laws : Reads value Written Overruns) :
    Reads (member value) (Member Written) (MemberOverruns Overruns) where
  sound := by
    intro text pair rest done
    rcases member_cases value text with refused |
      ⟨key, quoted, before, behind, last, string, white, white', rfl, read⟩
    · rw [refused] at done
      cases done
    · rw [read] at done
      split at done
      · cases done
      · rename_i document left found
        cases done
        obtain ⟨used, rfl, written⟩ := laws.sound found
        refine ⟨quoted ++ (before ++ code ':' :: (behind ++ used)), ?_,
          quoted, before, behind, used, string, white, white', written, rfl⟩
        simp only [List.append_assoc, List.cons_append]
  complete := by
    rintro ⟨key, document⟩ used rest ⟨quoted, before, behind, last, string, white, white', written,
      rfl⟩ delimited
    have solid : Solid (last ++ rest) := ((laws.opens written).append rest).solid
    have shape : quoted ++ (before ++ code ':' :: (behind ++ last)) ++ rest =
        quoted ++ (before ++ code ':' :: (behind ++ (last ++ rest))) := by
      simp only [List.append_assoc, List.cons_append]
    rw [shape, member_of_quoted value string white white' solid, laws.complete written delimited]
  overrun := by
    intro text
    constructor
    · rintro ⟨error, bounds, met⟩
      rcases member_cases value text with refused |
        ⟨key, quoted, before, behind, last, string, white, white', rfl, read⟩
      · rw [refused] at met
        cases met
        cases bounds
      · rw [read] at met
        split at met
        · rename_i raised found
          cases met
          exact ⟨key, quoted, before, behind, last, string, white, white',
            laws.overrun.mp ⟨error, bounds, found⟩, rfl⟩
        · cases met
    · rintro ⟨key, quoted, before, behind, last, string, white, white', overruns, rfl⟩
      obtain ⟨error, bounds, met⟩ := laws.overrun.mpr overruns
      refine ⟨error, bounds, ?_⟩
      rw [member_of_quoted value string white white' (laws.overruns_opens overruns).solid, met]
  opens := by
    rintro pair used ⟨quoted, before, behind, last, string, _, _, _, rfl⟩
    exact opens_of_quoted string _
  overruns_opens := by
    rintro text ⟨key, quoted, before, behind, last, string, _, _, _, rfl⟩
    exact opens_of_quoted string _

/-! ## Values -/

/-- An integer of more digits than are read; zero bounds nothing. -/
def Overlong (digits : Nat) (numeral : Numeral) : Prop :=
  numeral.isInteger = true ∧ 0 < digits ∧ digits < numeral.digits.length

instance (digits : Nat) (numeral : Numeral) : Decidable (Overlong digits numeral) :=
  inferInstanceAs (Decidable (_ ∧ _ ∧ _))

/-- A word in front of a text. -/
def word? (text : Text) : Option (Document × Text) :=
  words.findSome? (fun (spelled, document) =>
    (spelled.isPrefixOf? text).map (fun rest => (document, rest)))

/-- A value without brackets. -/
def scalar (digits : Nat) : Reader Document := fun text =>
  match text with
  | [] => .error .malformed
  | c :: rest =>
    if c = code '"' then
      match string? rest with
      | none => .error .malformed
      | some (text, rest) => .ok (.string text, rest)
    else
      match word? (c :: rest) with
      | some (document, rest) => .ok (document, rest)
      | none =>
        match numeral? (c :: rest) with
        | none => .error .malformed
        | some (numeral, rest) =>
          if Overlong digits numeral then .error .overlong else .ok (.number numeral, rest)

/-- A value without brackets in the grammar. -/
inductive Scalar (digits : Nat) : Document → Text → Prop
  /-- A word. -/
  | word {spelled : Text} {document : Document} (known : (spelled, document) ∈ words) :
      Scalar digits document spelled
  /-- A string. -/
  | string {text used : Text} (quoted : Quoted text used) : Scalar digits (.string text) used
  /-- A number that is not too long. -/
  | number {numeral : Numeral} (formed : numeral.Formed) (short : ¬Overlong digits numeral) :
      Scalar digits (.number numeral) numeral.spelled

/-- A text that starts with an integer that is too long. -/
def ScalarOverruns (digits : Nat) (text : Text) : Prop :=
  ∃ numeral rest, numeral.Formed ∧ Overlong digits numeral ∧ Ends rest ∧
    text = numeral.spelled ++ rest

/-- A word opens, without a quote. -/
theorem word_head {spelled : Text} {document : Document} (known : (spelled, document) ∈ words) :
    ∃ c rest, spelled = c :: rest ∧ isBlank c = false ∧ c ≠ code ']' ∧ c ≠ code '}' ∧
      isGraphic c = true ∧ c ≠ code '"' ∧ c ≠ code '[' ∧ c ≠ code '{' := by
  simp only [words, List.mem_cons, Prod.mk.injEq, List.not_mem_nil, or_false] at known
  rcases known with known | known | known | known | known | known <;> obtain ⟨rfl, _⟩ := known <;>
    exact ⟨_, _, rfl, by decide, by decide, by decide, by decide, by decide, by decide,
      by decide⟩

/-- A word is no number. -/
theorem numeral?_word {spelled : Text} {document : Document} (known : (spelled, document) ∈ words)
    (rest : Text) : numeral? (spelled ++ rest) = none := by
  simp only [words, List.mem_cons, Prod.mk.injEq, List.not_mem_nil, or_false] at known
  rcases known with known | known | known | known | known | known <;> obtain ⟨rfl, _⟩ := known <;>
    rfl

/-- A word that is written is read. -/
theorem word?_spelled {spelled : Text} {document : Document} (known : (spelled, document) ∈ words)
    (rest : Text) : word? (spelled ++ rest) = some (document, rest) := by
  simp only [words, List.mem_cons, Prod.mk.injEq, List.not_mem_nil, or_false] at known
  rcases known with known | known | known | known | known | known <;>
    obtain ⟨rfl, rfl⟩ := known <;> rfl

/-- A word that is read was written. -/
theorem word?_sound {text rest : Text} {document : Document}
    (read : word? text = some (document, rest)) :
    ∃ spelled, (spelled, document) ∈ words ∧ text = spelled ++ rest := by
  obtain ⟨⟨spelled, known⟩, member, found⟩ := List.exists_of_findSome?_eq_some read
  obtain ⟨last, starts, same⟩ := Option.map_eq_some_iff.mp found
  rw [Prod.mk.injEq] at same
  obtain ⟨rfl, rfl⟩ := same
  exact ⟨spelled, member, (List.isPrefixOf?_eq_some_iff_append_eq.mp starts).symm⟩

/-- A number is no word. -/
theorem word?_numeral {text rest : Text} {numeral : Numeral}
    (read : numeral? text = some (numeral, rest)) : word? text = none := by
  cases found : word? text with
  | none => rfl
  | some word =>
    obtain ⟨spelled, known, rfl⟩ := word?_sound found
    rw [numeral?_word known] at read
    cases read

/-- A number opens, without a quote. -/
theorem numeral_opens {numeral : Numeral} (formed : numeral.Formed) :
    ∃ c rest, numeral.spelled = c :: rest ∧ isBlank c = false ∧ c ≠ code ']' ∧ c ≠ code '}' ∧
      isGraphic c = true ∧ c ≠ code '"' ∧ c ≠ code '[' ∧ c ≠ code '{' := by
  obtain ⟨c, rest, same, first⟩ := numeral_head formed
  have apart : ∀ other ∈ [code ' ', code '\t', code '\n', code '\r', code ']', code '}',
      code '"', code '[', code '{'], c ≠ other := by
    rintro other member rfl
    have odd : ∀ other ∈ [code ' ', code '\t', code '\n', code '\r', code ']', code '}',
        code '"', code '[', code '{'], ¬(other = code '-' ∨ isDigit other = true) := by decide
    exact odd c member first
  simp only [List.mem_cons, List.not_mem_nil, or_false, forall_eq_or_imp, forall_eq] at apart
  obtain ⟨space, tab, line, feed, square, curly, quote, square', curly'⟩ := apart
  have graphic : isGraphic c = true := by
    rcases first with rfl | digit
    · decide
    · simp only [isDigit, code, Bool.and_eq_true, decide_eq_true_eq, Char.reduceToNat] at digit
      simp only [isGraphic, Bool.and_eq_true, decide_eq_true_eq]
      omega
  exact ⟨c, rest, same, by simp [isBlank, space, tab, line, feed], square, curly, graphic, quote,
    square', curly'⟩

/-- What is read where a number starts. -/
theorem scalar_of_numeral (digits : Nat) {text rest : Text} {numeral : Numeral}
    (read : numeral? text = some (numeral, rest)) (unquoted : text.head? ≠ some (code '"')) :
    scalar digits text =
      if Overlong digits numeral then .error .overlong else .ok (.number numeral, rest) := by
  cases text with
  | nil => cases read
  | cons c more =>
    have other : c ≠ code '"' := fun same => unquoted (congrArg some same)
    simp only [scalar, if_neg other, word?_numeral read, read]

/-- The laws of a reader of values without brackets. -/
theorem scalar_reads (digits : Nat) :
    Reads (scalar digits) (Scalar digits) (ScalarOverruns digits) where
  sound := by
    intro text document rest done
    cases text with
    | nil => cases done
    | cons c more =>
      by_cases quote : c = code '"'
      · subst quote
        simp only [scalar, if_pos] at done
        split at done
        · cases done
        · rename_i found
          cases done
          obtain ⟨used, same, quoted⟩ := string?_sound found
          exact ⟨used, same, .string quoted⟩
      · simp only [scalar, if_neg quote] at done
        split at done
        · rename_i found
          cases done
          obtain ⟨spelled, known, same⟩ := word?_sound found
          exact ⟨spelled, same, .word known⟩
        · split at done
          · cases done
          · rename_i found
            split at done
            · cases done
            · rename_i short
              cases done
              obtain ⟨same, formed, _⟩ := numeral?_sound found
              exact ⟨_, same, .number formed short⟩
  complete := by
    intro document used rest written delimited
    cases written with
    | word known =>
      obtain ⟨c, more, same, _, _, _, _, unquoted, _⟩ := word_head known
      have read := word?_spelled known rest
      subst same
      simp only [List.cons_append] at read ⊢
      simp only [scalar, if_neg unquoted, read]
    | string quoted =>
      obtain ⟨behind, same, read⟩ := string?_spelled quoted rest
      rw [same]
      simp only [scalar, if_pos, read]
    | @number numeral formed short =>
      have read := numeral?_spelled formed (ends_of_delimited delimited)
      obtain ⟨c, more, same, _, _, _, _, unquoted, _⟩ := numeral_opens formed
      have first : (numeral.spelled ++ rest).head? ≠ some (code '"') := by
        rw [same]
        exact fun quote => unquoted (Option.some.inj quote)
      rw [scalar_of_numeral digits read first, if_neg short]
  overrun := by
    intro text
    constructor
    · rintro ⟨error, bounds, met⟩
      cases text with
      | nil =>
        cases met
        cases bounds
      | cons c more =>
        by_cases quote : c = code '"'
        · subst quote
          simp only [scalar, if_pos] at met
          split at met
          · cases met
            cases bounds
          · cases met
        · simp only [scalar, if_neg quote] at met
          split at met
          · cases met
          · split at met
            · cases met
              cases bounds
            · rename_i numeral rest found
              split at met
              · rename_i long
                obtain ⟨same, formed, ends⟩ := numeral?_sound found
                have several : numeral.digits ≠ [code '0'] := by
                  intro zero
                  have bound := long.2
                  rw [zero, List.length_singleton] at bound
                  omega
                exact ⟨numeral, rest, formed, long, ends long.1 several, same⟩
              · cases met
    · rintro ⟨numeral, rest, formed, long, ends, rfl⟩
      have read := numeral?_spelled formed ends
      obtain ⟨c, more, same, _, _, _, _, unquoted, _⟩ := numeral_opens formed
      have first : (numeral.spelled ++ rest).head? ≠ some (code '"') := by
        rw [same]
        exact fun quote => unquoted (Option.some.inj quote)
      exact ⟨.overlong, rfl, by rw [scalar_of_numeral digits read first, if_pos long]⟩
  opens := by
    intro document used written
    cases written with
    | word known =>
      obtain ⟨c, rest, same, dense, square, curly, graphic, _⟩ := word_head known
      exact ⟨c, rest, same, dense, square, curly, graphic⟩
    | string quoted =>
      have opens := opens_of_quoted quoted []
      rw [List.append_nil] at opens
      exact opens
    | number formed short =>
      obtain ⟨c, rest, same, dense, square, curly, graphic, _⟩ := numeral_opens formed
      exact ⟨c, rest, same, dense, square, curly, graphic⟩
  overruns_opens := by
    rintro text ⟨numeral, rest, formed, _, _, rfl⟩
    obtain ⟨c, more, same, dense, square, curly, graphic, _⟩ := numeral_opens formed
    exact Opens.append ⟨c, more, same, dense, square, curly, graphic⟩ rest

/-- What is written behind an opening bracket makes a value. -/
def wrapped {α β : Type} (wrap : α → Except ReadError β) (read : Reader α) : Reader β := fun text =>
  match read text with
  | .error error => .error error
  | .ok (value, rest) => (wrap value).map (fun document => (document, rest))

/-- The items of an array make it. -/
def arrayOf (items : List Document) : Except ReadError Document := .ok (.array items)

/-- The members of an object make it, unless they have a key twice. -/
def objectOf (members : List (Text × Document)) : Except ReadError Document :=
  if (members.map (·.1)).Nodup then .ok (.object members) else .error .duplicateKey

/-- A value in which at most so many brackets are open. -/
def value (digits : Nat) : Nat → Reader Document
  | 0, text =>
    if text.head? = some (code '[') ∨ text.head? = some (code '{') then .error .tooDeep
    else scalar digits text
  | depth + 1, text =>
    if text.head? = some (code '[') then
      wrapped arrayOf (bracketed (value digits depth) (code ']')) text.tail
    else if text.head? = some (code '{') then
      wrapped objectOf (bracketed (member (value digits depth)) (code '}')) text.tail
    else scalar digits text

/-- A value with its brackets in the grammar, by what may be written between them. -/
inductive Composite (digits : Nat) (Inner : Document → Text → Prop) : Document → Text → Prop
  /-- No brackets. -/
  | scalar {document : Document} {used : Text} (written : Scalar digits document used) :
      Composite digits Inner document used
  /-- An array. -/
  | array {items : List Document} {used : Text}
      (written : Bracketed Inner (code ']') items used) :
      Composite digits Inner (.array items) (code '[' :: used)
  /-- An object. -/
  | object {members : List (Text × Document)} {used : Text}
      (written : Bracketed (Member Inner) (code '}') members used)
      (distinct : (members.map (·.1)).Nodup) :
      Composite digits Inner (.object members) (code '{' :: used)

/-- A text that overruns a bound within its brackets. -/
inductive CompositeOverruns (digits : Nat) (Inner : Document → Text → Prop)
    (InnerOverruns : Text → Prop) : Text → Prop
  /-- A long integer. -/
  | scalar {text : Text} (overruns : ScalarOverruns digits text) :
      CompositeOverruns digits Inner InnerOverruns text
  /-- In an array. -/
  | array {text : Text} (overruns : BracketedOverruns Inner InnerOverruns text) :
      CompositeOverruns digits Inner InnerOverruns (code '[' :: text)
  /-- In an object. -/
  | object {text : Text}
      (overruns : BracketedOverruns (Member Inner) (MemberOverruns InnerOverruns) text) :
      CompositeOverruns digits Inner InnerOverruns (code '{' :: text)

/-- The grammar of values: at most so many brackets are open, no integer is too long, and no object
has a key twice. -/
def Writes (digits : Nat) : Nat → Document → Text → Prop
  | 0 => Scalar digits
  | depth + 1 => Composite digits (Writes digits depth)

/-- A text whose reading meets a bound: an integer that is too long, or one bracket too many. -/
def Overruns (digits : Nat) : Nat → Text → Prop
  | 0 => fun text => ScalarOverruns digits text ∨
      ∃ c rest, text = c :: rest ∧ (c = code '[' ∨ c = code '{')
  | depth + 1 => CompositeOverruns digits (Writes digits depth) (Overruns digits depth)

/-- A scalar does not start with a bracket. -/
theorem scalar_head {digits : Nat} {document : Document} {used : Text}
    (written : Scalar digits document used) :
    ∃ c rest, used = c :: rest ∧ c ≠ code '[' ∧ c ≠ code '{' := by
  cases written with
  | word known =>
    obtain ⟨c, rest, same, _, _, _, _, _, square, curly⟩ := word_head known
    exact ⟨c, rest, same, square, curly⟩
  | string quoted =>
    obtain ⟨units, _, _, rfl⟩ := quoted
    exact ⟨code '"', _, rfl, by decide, by decide⟩
  | number formed short =>
    obtain ⟨c, rest, same, _, _, _, _, _, square, curly⟩ := numeral_opens formed
    exact ⟨c, rest, same, square, curly⟩

/-- Nor does a scalar that is too long. -/
theorem scalarOverruns_head {digits : Nat} {text : Text} (overruns : ScalarOverruns digits text) :
    ∃ c rest, text = c :: rest ∧ c ≠ code '[' ∧ c ≠ code '{' := by
  obtain ⟨numeral, rest, formed, _, _, rfl⟩ := overruns
  obtain ⟨c, more, same, _, _, _, _, _, square, curly⟩ := numeral_opens formed
  exact ⟨c, more ++ rest, by rw [same]; rfl, square, curly⟩

/-- A wrapped reader returns what is wrapped. -/
theorem wrapped_eq_ok {wrap : α → Except ReadError β} {read : Reader α} {text rest : Text}
    {document : β} :
    wrapped wrap read text = .ok (document, rest) ↔
      ∃ value, read text = .ok (value, rest) ∧ wrap value = .ok document := by
  unfold wrapped
  constructor
  · intro done
    split at done
    · cases done
    · rename_i value last found
      cases made : wrap value with
      | error raised =>
        rw [made] at done
        cases done
      | ok document =>
        rw [made] at done
        cases done
        exact ⟨value, found, made⟩
  · rintro ⟨value, found, made⟩
    simp only [found, made, Except.map]

/-- A wrapped reader meets the bounds of what it wraps. -/
theorem wrapped_bounds {wrap : α → Except ReadError β} {read : Reader α} {text : Text}
    (wraps : ∀ value error, wrap value = .error error → error.bounds = false) :
    (∃ error, error.bounds = true ∧ wrapped wrap read text = .error error) ↔
      ∃ error, error.bounds = true ∧ read text = .error error := by
  unfold wrapped
  constructor
  · rintro ⟨error, bounds, met⟩
    split at met
    · rename_i raised found
      cases met
      exact ⟨error, bounds, found⟩
    · rename_i value last found
      cases made : wrap value with
      | error raised =>
        have none := wraps value raised made
        rw [made] at met
        cases met
        rw [bounds] at none
        cases none
      | ok document =>
        rw [made] at met
        cases met
  · rintro ⟨error, bounds, met⟩
    exact ⟨error, bounds, by simp only [met]⟩

/-- Making an array meets no bound. -/
theorem arrayOf_bounds (items : List Document) (error : ReadError)
    (met : arrayOf items = .error error) : error.bounds = false := by
  cases met

/-- Making an object meets no bound. -/
theorem objectOf_bounds (members : List (Text × Document)) (error : ReadError)
    (met : objectOf members = .error error) : error.bounds = false := by
  unfold objectOf at met
  split at met
  · cases met
  · cases met
    rfl

/-- Objects are made of distinct members. -/
theorem objectOf_eq_ok {members : List (Text × Document)} {document : Document} :
    objectOf members = .ok document ↔
      (members.map (·.1)).Nodup ∧ document = .object members := by
  unfold objectOf
  split
  · rename_i distinct
    exact ⟨fun h => (by cases h; exact ⟨distinct, rfl⟩), fun h => (by rw [h.2])⟩
  · rename_i repeated
    exact ⟨fun h => (by cases h), fun h => absurd h.1 repeated⟩

/-- What is read where no bracket opens. -/
theorem value_of_scalar (digits depth : Nat) {text : Text}
    (square : text.head? ≠ some (code '[')) (curly : text.head? ≠ some (code '{')) :
    value digits depth text = scalar digits text := by
  cases depth with
  | zero => exact if_neg (fun opens => opens.elim square curly)
  | succ depth => rw [value, if_neg square, if_neg curly]

/-- The laws of the reader of values without brackets, and with none to open. -/
theorem value_reads_zero (digits : Nat) :
    Reads (value digits 0) (Writes digits 0) (Overruns digits 0) := by
  have laws := scalar_reads digits
  have here : ∀ {c : Nat} {rest : Text}, c ≠ code '[' → c ≠ code '{' →
      value digits 0 (c :: rest) = scalar digits (c :: rest) := fun square curly =>
    value_of_scalar digits 0 (fun h => square (Option.some.inj h))
      (fun h => curly (Option.some.inj h))
  refine ⟨?_, ?_, ?_, laws.opens, ?_⟩
  · intro text document rest done
    by_cases opens : text.head? = some (code '[') ∨ text.head? = some (code '{')
    · rw [value, if_pos opens] at done
      cases done
    · rw [value, if_neg opens] at done
      exact laws.sound done
  · intro document used rest written delimited
    obtain ⟨c, more, rfl, square, curly⟩ := scalar_head written
    rw [List.cons_append, here square curly]
    exact laws.complete written delimited
  · intro text
    constructor
    · rintro ⟨error, bounds, met⟩
      by_cases opens : text.head? = some (code '[') ∨ text.head? = some (code '{')
      · cases text with
        | nil => exact absurd opens (by simp)
        | cons c rest =>
          refine .inr ⟨c, rest, rfl, ?_⟩
          exact opens.imp Option.some.inj Option.some.inj
      · rw [value, if_neg opens] at met
        exact .inl (laws.overrun.mp ⟨error, bounds, met⟩)
    · rintro (overruns | ⟨c, rest, rfl, opens⟩)
      · obtain ⟨c, rest, rfl, square, curly⟩ := scalarOverruns_head overruns
        rw [here square curly]
        exact laws.overrun.mpr overruns
      · refine ⟨.tooDeep, rfl, if_pos ?_⟩
        exact opens.imp (congrArg some) (congrArg some)
  · rintro text (overruns | ⟨c, rest, rfl, rfl | rfl⟩)
    · exact laws.overruns_opens overruns
    · exact ⟨code '[', rest, rfl, by decide, by decide, by decide, by decide⟩
    · exact ⟨code '{', rest, rfl, by decide, by decide, by decide, by decide⟩

/-- The laws of the reader of values with one more bracket to open. -/
theorem value_reads_succ (digits depth : Nat)
    (inner : Reads (value digits depth) (Writes digits depth) (Overruns digits depth)) :
    Reads (value digits (depth + 1)) (Writes digits (depth + 1)) (Overruns digits (depth + 1)) := by
  have laws := scalar_reads digits
  have members := member_reads inner
  have array : ∀ text, value digits (depth + 1) (code '[' :: text) =
      wrapped arrayOf (bracketed (value digits depth) (code ']')) text := fun text => rfl
  have object : ∀ text, value digits (depth + 1) (code '{' :: text) =
      wrapped objectOf (bracketed (member (value digits depth)) (code '}')) text := fun text => rfl
  have here : ∀ {c : Nat} {rest : Text}, c ≠ code '[' → c ≠ code '{' →
      value digits (depth + 1) (c :: rest) = scalar digits (c :: rest) := fun square curly =>
    value_of_scalar digits (depth + 1) (fun h => square (Option.some.inj h))
      (fun h => curly (Option.some.inj h))
  refine ⟨?_, ?_, ?_, ?_, ?_⟩
  · intro text document rest done
    cases text with
    | nil => cases done
    | cons c more =>
      by_cases square : c = code '['
      · subst square
        rw [array, wrapped_eq_ok] at done
        obtain ⟨items, read, made⟩ := done
        cases made
        obtain ⟨used, rfl, written⟩ := bracketed_sound inner read
        exact ⟨code '[' :: used, rfl, .array written⟩
      · by_cases curly : c = code '{'
        · subst curly
          rw [object, wrapped_eq_ok] at done
          obtain ⟨pairs, read, made⟩ := done
          obtain ⟨distinct, rfl⟩ := objectOf_eq_ok.mp made
          obtain ⟨used, rfl, written⟩ := bracketed_sound members read
          exact ⟨code '{' :: used, rfl, .object written distinct⟩
        · rw [here square curly] at done
          obtain ⟨used, same, written⟩ := laws.sound done
          exact ⟨used, same, .scalar written⟩
  · intro document used rest written delimited
    cases written with
    | scalar written =>
      obtain ⟨c, more, rfl, square, curly⟩ := scalar_head written
      rw [List.cons_append, here square curly]
      exact laws.complete written delimited
    | @array items used written =>
      rw [List.cons_append, array, wrapped_eq_ok]
      exact ⟨items, bracketed_complete inner (.inl rfl) written rest, rfl⟩
    | @object pairs used written distinct =>
      rw [List.cons_append, object, wrapped_eq_ok]
      exact ⟨pairs, bracketed_complete members (.inr rfl) written rest,
        objectOf_eq_ok.mpr ⟨distinct, rfl⟩⟩
  · intro text
    constructor
    · rintro ⟨error, bounds, met⟩
      cases text with
      | nil =>
        cases met
        cases bounds
      | cons c more =>
        by_cases square : c = code '['
        · subst square
          rw [array] at met
          have inside := (wrapped_bounds arrayOf_bounds).mp ⟨error, bounds, met⟩
          exact .array ((bracketed_overrun inner (.inl rfl)).mp inside)
        · by_cases curly : c = code '{'
          · subst curly
            rw [object] at met
            have inside := (wrapped_bounds objectOf_bounds).mp ⟨error, bounds, met⟩
            exact .object ((bracketed_overrun members (.inr rfl)).mp inside)
          · rw [here square curly] at met
            exact .scalar (laws.overrun.mp ⟨error, bounds, met⟩)
    · intro overruns
      cases overruns with
      | scalar overruns =>
        obtain ⟨c, rest, rfl, square, curly⟩ := scalarOverruns_head overruns
        rw [here square curly]
        exact laws.overrun.mpr overruns
      | array overruns =>
        rw [array]
        exact (wrapped_bounds arrayOf_bounds).mpr
          ((bracketed_overrun inner (.inl rfl)).mpr overruns)
      | object overruns =>
        rw [object]
        exact (wrapped_bounds objectOf_bounds).mpr
          ((bracketed_overrun members (.inr rfl)).mpr overruns)
  · intro document used written
    cases written with
    | scalar written => exact laws.opens written
    | array written => exact ⟨code '[', _, rfl, by decide, by decide, by decide, by decide⟩
    | object written => exact ⟨code '{', _, rfl, by decide, by decide, by decide, by decide⟩
  · intro text overruns
    cases overruns with
    | scalar overruns => exact laws.overruns_opens overruns
    | array overruns => exact ⟨code '[', _, rfl, by decide, by decide, by decide, by decide⟩
    | object overruns => exact ⟨code '{', _, rfl, by decide, by decide, by decide, by decide⟩

/-- The laws of the reader of values. -/
theorem value_reads (digits depth : Nat) :
    Reads (value digits depth) (Writes digits depth) (Overruns digits depth) := by
  induction depth with
  | zero => exact value_reads_zero digits
  | succ depth inner => exact value_reads_succ digits depth inner

/-! ## Texts -/

/-- `json.loads` of a text. -/
def loads (digits depth : Nat) (text : Text) : Except ReadError Document :=
  if text.head? = some byteOrderMark then .error .malformed
  else
    match value digits depth (skip text) with
    | .error error => .error error
    | .ok (document, rest) => if skip rest = [] then .ok document else .error .malformed

/-- A text that writes a document, with white space around it. -/
def WritesText (digits depth : Nat) (document : Document) (text : Text) : Prop :=
  ∃ before used behind, Blank before ∧ Blank behind ∧ Writes digits depth document used ∧
    text = before ++ (used ++ behind)

/-- A text whose reading meets a bound. -/
def OverrunsText (digits depth : Nat) (text : Text) : Prop :=
  ∃ before rest, Blank before ∧ Overruns digits depth rest ∧ text = before ++ rest

/-- White space in front of a text that opens is no byte order mark. -/
theorem unmarked_of_opens {blank text : Text} (white : Blank blank) (opens : Opens text) :
    (blank ++ text).head? ≠ some byteOrderMark := by
  cases blank with
  | nil =>
    obtain ⟨c, rest, rfl, _, _, _, graphic⟩ := opens
    intro first
    rw [Option.some.inj first] at graphic
    exact absurd graphic (by decide)
  | cons space more =>
    intro first
    have spaced := white space List.mem_cons_self
    rw [Option.some.inj first] at spaced
    exact absurd spaced (by decide)

/-- A text is read as the document it writes. -/
theorem loads_eq_ok {digits depth : Nat} {text : Text} {document : Document} :
    loads digits depth text = .ok document ↔ WritesText digits depth document text := by
  have laws := value_reads digits depth
  constructor
  · intro done
    unfold loads at done
    split at done
    · cases done
    · split at done
      · cases done
      · rename_i value rest read
        split at done
        · rename_i closed
          cases done
          obtain ⟨used, same, written⟩ := laws.sound read
          obtain ⟨before, white, split_text⟩ := exists_blank text
          obtain ⟨behind, white', split_rest⟩ := exists_blank rest
          rw [closed, List.append_nil] at split_rest
          subst split_rest
          exact ⟨before, used, rest, white, white', written, by rw [← same]; exact split_text⟩
        · cases done
  · rintro ⟨before, used, behind, white, white', written, rfl⟩
    have opens := (laws.opens written).append behind
    have closed : skip behind = [] := by
      have all := skip_append white' []
      rw [List.append_nil] at all
      exact all
    rw [loads, if_neg (unmarked_of_opens white opens), skip_blank_append white opens.solid,
      laws.complete written (delimited_blank white')]
    exact if_pos closed

/-- Reading a text meets a bound on the texts that overrun it. -/
theorem loads_bounds {digits depth : Nat} {text : Text} :
    (∃ error, error.bounds = true ∧ loads digits depth text = .error error) ↔
      OverrunsText digits depth text := by
  have laws := value_reads digits depth
  constructor
  · rintro ⟨error, bounds, met⟩
    unfold loads at met
    split at met
    · cases met
      cases bounds
    · split at met
      · rename_i raised read
        cases met
        obtain ⟨before, white, split_text⟩ := exists_blank text
        exact ⟨before, skip text, white, laws.overrun.mp ⟨error, bounds, read⟩, split_text⟩
      · split at met
        · cases met
        · cases met
          cases bounds
  · rintro ⟨before, rest, white, overruns, rfl⟩
    have opens := laws.overruns_opens overruns
    obtain ⟨error, bounds, read⟩ := laws.overrun.mpr overruns
    refine ⟨error, bounds, ?_⟩
    rw [loads, if_neg (unmarked_of_opens white opens), skip_blank_append white opens.solid, read]

/-! ## Without bounds -/

/-- A document of the grammar whatever its size. -/
def WritesAny (document : Document) (text : Text) : Prop :=
  ∃ depth, WritesText 0 depth document text

/-- A document that mentions a constant outside the standard. -/
inductive Mentions : Document → Prop
  /-- It is one. -/
  | constant (constant : Constant) : Mentions (.constant constant)
  /-- An item does. -/
  | item {items : List Document} {document : Document} (member : document ∈ items)
      (mentions : Mentions document) : Mentions (.array items)
  /-- The value of a member does. -/
  | member {members : List (Text × Document)} {pair : Text × Document} (member : pair ∈ members)
      (mentions : Mentions pair.2) : Mentions (.object members)

section Bounds

variable {Written Narrow : α → Text → Prop} {Overruns : Text → Prop} {closing : Nat}

/-- Where every value is within the bounds or overruns one, so is every series. -/
theorem series_within
    (within : ∀ {value used rest}, Written value used → Delimited rest →
      Narrow value used ∨ Overruns (used ++ rest))
    (closes : closing = code ']' ∨ closing = code '}') {values : List α} {used : Text}
    (written : Series Written closing values used) (rest : Text) :
    Series Narrow closing values used ∨ SeriesOverruns Narrow Overruns (used ++ rest) := by
  induction written with
  | @last value used blank written white =>
    have delimited : Delimited (blank ++ closing :: rest) :=
      delimited_append white rest (.inr closes)
    rcases within written delimited with narrow | overruns
    · exact .inl (.last narrow white)
    · right
      have shape : used ++ (blank ++ [closing]) ++ rest = used ++ (blank ++ closing :: rest) := by
        simp only [List.append_assoc, List.cons_append, List.nil_append]
      rw [shape]
      exact .here overruns
  | @more value values used before behind last written white white' others ih =>
    have shape : used ++ (before ++ code ',' :: (behind ++ last)) ++ rest =
        used ++ (before ++ code ',' :: (behind ++ (last ++ rest))) := by
      simp only [List.append_assoc, List.cons_append]
    rw [shape]
    rcases within written (delimited_append white _ (.inl rfl)) with narrow | overruns
    · rcases ih with later | later
      · exact .inl (.more narrow white white' later)
      · exact .inr (.later narrow white white' later)
    · exact .inr (.here overruns)

/-- So are values between brackets. -/
theorem bracketed_within
    (within : ∀ {value used rest}, Written value used → Delimited rest →
      Narrow value used ∨ Overruns (used ++ rest))
    (closes : closing = code ']' ∨ closing = code '}') {values : List α} {used : Text}
    (written : Bracketed Written closing values used) (rest : Text) :
    Bracketed Narrow closing values used ∨ BracketedOverruns Narrow Overruns (used ++ rest) := by
  rcases written with ⟨none, blank, white, rfl⟩ | ⟨blank, more, white, rfl, written⟩
  · exact .inl (.inl ⟨none, blank, white, rfl⟩)
  · rcases series_within within closes written rest with narrow | overruns
    · exact .inl (.inr ⟨blank, more, white, rfl, narrow⟩)
    · exact .inr ⟨blank, more ++ rest, white, List.append_assoc .., overruns⟩

/-- A series of values that meet a condition is one of the values that are narrow under it. -/
theorem series_narrow {values : List α} {used : Text} (written : Series Written closing values used)
    (narrow : ∀ value ∈ values, ∀ used, Written value used → Narrow value used) :
    Series Narrow closing values used := by
  induction written with
  | last written white => exact .last (narrow _ List.mem_cons_self _ written) white
  | more written white white' others ih =>
    exact .more (narrow _ List.mem_cons_self _ written) white white'
      (ih (fun value member => narrow value (List.mem_cons_of_mem _ member)))

/-- So are values between brackets. -/
theorem bracketed_narrow {values : List α} {used : Text}
    (written : Bracketed Written closing values used)
    (narrow : ∀ value ∈ values, ∀ used, Written value used → Narrow value used) :
    Bracketed Narrow closing values used := by
  rcases written with ⟨none, blank, white, same⟩ | ⟨blank, more, white, same, written⟩
  · exact .inl ⟨none, blank, white, same⟩
  · exact .inr ⟨blank, more, white, same, series_narrow written narrow⟩

end Bounds

/-- A scalar of the grammar is within the bounds, or a text that starts with it overruns one. -/
theorem scalar_within (digits : Nat) {document : Document} {used rest : Text}
    (written : Scalar 0 document used) (delimited : Delimited rest) :
    Scalar digits document used ∨ ScalarOverruns digits (used ++ rest) := by
  cases written with
  | word known => exact .inl (.word known)
  | string quoted => exact .inl (.string quoted)
  | @number numeral formed _ =>
    by_cases long : Overlong digits numeral
    · exact .inr ⟨numeral, rest, formed, long, ends_of_delimited delimited, rfl⟩
    · exact .inl (.number formed long)

/-- A value of the grammar is within the bounds, or a text that starts with it overruns one. -/
theorem writes_within (digits : Nat) {size depth : Nat} {document : Document} {used rest : Text}
    (written : Writes 0 size document used) (delimited : Delimited rest) :
    Writes digits depth document used ∨ Overruns digits depth (used ++ rest) := by
  induction size generalizing depth document used rest with
  | zero =>
    rcases scalar_within digits written delimited with narrow | overruns
    · cases depth with
      | zero => exact .inl narrow
      | succ depth => exact .inl (.scalar narrow)
    · cases depth with
      | zero => exact .inr (.inl overruns)
      | succ depth => exact .inr (.scalar overruns)
  | succ size ih =>
    cases written with
    | scalar written =>
      rcases scalar_within digits written delimited with narrow | overruns
      · cases depth with
        | zero => exact .inl narrow
        | succ depth => exact .inl (.scalar narrow)
      · cases depth with
        | zero => exact .inr (.inl overruns)
        | succ depth => exact .inr (.scalar overruns)
    | array written =>
      cases depth with
      | zero => exact .inr (.inr ⟨code '[', _, rfl, .inl rfl⟩)
      | succ depth =>
        have within : ∀ {value used rest}, Writes 0 size value used → Delimited rest →
            Writes digits depth value used ∨ Overruns digits depth (used ++ rest) := ih
        rcases bracketed_within within (.inl rfl) written rest with narrow | overruns
        · exact .inl (.array narrow)
        · exact .inr (.array overruns)
    | object written distinct =>
      cases depth with
      | zero => exact .inr (.inr ⟨code '{', _, rfl, .inr rfl⟩)
      | succ depth =>
        have within : ∀ {pair used rest}, Member (Writes 0 size) pair used → Delimited rest →
            Member (Writes digits depth) pair used ∨
              MemberOverruns (Overruns digits depth) (used ++ rest) := by
          rintro pair _ rest ⟨quoted, before, behind, last, string, white, white', written, rfl⟩
            delimited
          rcases ih written delimited with narrow | overruns
          · exact .inl ⟨quoted, before, behind, last, string, white, white', narrow, rfl⟩
          · refine .inr ⟨pair.1, quoted, before, behind, last ++ rest, string, white, white',
              overruns, ?_⟩
            simp only [List.append_assoc, List.cons_append]
        rcases bracketed_within within (.inr rfl) written rest with narrow | overruns
        · exact .inl (.object narrow distinct)
        · exact .inr (.object overruns)

/-- A bound on the digits may be dropped. -/
theorem writes_unbounded {digits depth : Nat} {document : Document} {used : Text}
    (written : Writes digits depth document used) : Writes 0 depth document used := by
  have scalar : ∀ {document used}, Scalar digits document used → Scalar 0 document used := by
    intro document used written
    cases written with
    | word known => exact .word known
    | string quoted => exact .string quoted
    | number formed _ => exact .number formed (fun long => absurd long.2.1 (Nat.lt_irrefl 0))
  induction depth generalizing document used with
  | zero => exact scalar written
  | succ depth ih =>
    cases written with
    | scalar written => exact .scalar (scalar written)
    | array written => exact .array (bracketed_narrow written (fun _ _ _ inner => ih inner))
    | object written distinct =>
      refine .object (bracketed_narrow written ?_) distinct
      rintro pair _ _ ⟨quoted, before, behind, last, string, white, white', inner, rfl⟩
      exact ⟨quoted, before, behind, last, string, white, white', ih inner, rfl⟩

/-- A text that writes a document is read as it, or its reading meets a bound. -/
theorem loads_of_writesAny (digits depth : Nat) {document : Document} {text : Text}
    (written : WritesAny document text) :
    loads digits depth text = .ok document ∨ OverrunsText digits depth text := by
  obtain ⟨size, before, used, behind, white, white', written, rfl⟩ := written
  rcases @writes_within digits _ depth _ _ _ written (delimited_blank white') with
    narrow | overruns
  · exact .inl (loads_eq_ok.mpr ⟨before, used, behind, white, white', narrow, rfl⟩)
  · exact .inr ⟨before, used ++ behind, white, overruns, rfl⟩

/-- A text that is read writes the document. -/
theorem writesAny_of_loads {digits depth : Nat} {text : Text} {document : Document}
    (read : loads digits depth text = .ok document) : WritesAny document text := by
  obtain ⟨before, used, behind, white, white', written, rfl⟩ := loads_eq_ok.mp read
  exact ⟨depth, before, used, behind, white, white', writes_unbounded written, rfl⟩

end Macr.Lib.JsonText
