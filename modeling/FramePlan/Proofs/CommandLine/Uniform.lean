import FramePlan.CommandLine.Uniform
import FramePlan.Proofs.Outcomes
import Mathlib.Data.List.DropRight

/-!
# Which texts are uniforms

A text is written in one way at most as a name without equals signs, an equals sign, and pieces without
commas that commas join. The text is a uniform if there are no more than four pieces and each of them,
taken without the blanks around it, is a number. Otherwise it is refused for the first thing that is
wrong: that it cannot be written so, then the leftmost piece that is no number, then the count.

* `Text.isTrimmed_iff`: what is left of a text without the blanks at its ends.
* `IsWritten.parseUniform_eq`, `exists_isWritten`: a text is read as it is written.
* `uniforms_parse_exactly`: which texts are read, as what, and why the others are not.
-/

namespace FramePlan

namespace Text

/-- What is left of a text is without blanks at its ends, and only blanks have been taken off. -/
structure IsTrimmed (text core : List Char) : Prop where
  exists_ends : ∃ lead trail, text = lead ++ core ++ trail ∧
    (∀ c ∈ lead, isBlank c = true) ∧ ∀ c ∈ trail, isBlank c = true
  head_plain : ∀ c ∈ core.head?, isBlank c = false
  last_plain : ∀ c ∈ core.getLast?, isBlank c = false

/-- Blanks before something that does not start with one are passed over. -/
theorem dropWhile_isBlank_append {lead rest : List Char} (hlead : ∀ c ∈ lead, isBlank c = true)
    (hrest : ∀ c ∈ rest.head?, isBlank c = false) : (lead ++ rest).dropWhile isBlank = rest := by
  rw [List.dropWhile_append_of_pos hlead]
  cases rest with
  | nil => rfl
  | cons c rest =>
    have hplain : ¬isBlank c = true := by
      rw [hrest c rfl]
      exact Bool.false_ne_true
    exact List.dropWhile_cons_of_neg hplain

theorem isBlank_head_dropWhile (text : List Char) {c : Char}
    (hhead : (text.dropWhile isBlank).head? = some c) : isBlank c = false := by
  have hplain := List.head?_dropWhile_not isBlank text
  rw [hhead] at hplain
  exact hplain

theorem isTrimmed_trim (text : List Char) : IsTrimmed text (trim text) where
  exists_ends := by
    refine ⟨text.takeWhile isBlank, (text.dropWhile isBlank).rtakeWhile isBlank, ?_,
      fun c => List.mem_takeWhile_imp, fun c => List.mem_rtakeWhile_imp⟩
    have hrest : trim text ++ (text.dropWhile isBlank).rtakeWhile isBlank =
        text.dropWhile isBlank := List.rdropWhile_append_rtakeWhile
    rw [List.append_assoc, hrest, List.takeWhile_append_dropWhile]
  head_plain := by
    intro c hhead
    obtain ⟨trail, htrail⟩ : trim text <+: text.dropWhile isBlank :=
      List.rdropWhile_prefix isBlank (text.dropWhile isBlank)
    apply isBlank_head_dropWhile text
    rw [← htrail, List.head?_append, hhead]
    rfl
  last_plain := by
    intro c hlast
    apply isBlank_head_dropWhile (text.dropWhile isBlank).reverse
    rw [← List.getLast?_reverse]
    exact hlast

/-- There is just one thing left of a text without the blanks at its ends. -/
theorem isTrimmed_iff {text core : List Char} : IsTrimmed text core ↔ core = trim text := by
  constructor
  · rintro ⟨⟨lead, trail, rfl, hlead, htrail⟩, hhead, hlast⟩
    cases core with
    | nil =>
      have hblank : ∀ c ∈ lead ++ [] ++ trail, isBlank c = true := by
        intro c hc
        rw [List.append_nil, List.mem_append] at hc
        exact hc.elim (hlead c) (htrail c)
      rw [trim, List.dropWhile_eq_nil_iff.2 hblank]
      rfl
    | cons first rest =>
      have hback : ∀ c ∈ trail.reverse, isBlank c = true :=
        fun c hc => htrail c (List.mem_reverse.1 hc)
      have hfront : (lead ++ (first :: rest) ++ trail).dropWhile isBlank = first :: rest ++ trail := by
        rw [List.append_assoc]
        exact dropWhile_isBlank_append hlead hhead
      rw [trim, hfront, List.reverse_append, dropWhile_isBlank_append hback, List.reverse_reverse]
      rwa [List.head?_reverse]
  · rintro rfl
    exact isTrimmed_trim text

end Text

namespace CommandLine

/-! ## Splitting -/

theorem splitAt_eq_splitOn (mark : Char) (text : List Char) :
    splitAt mark text = text.splitOn mark := by
  induction text with
  | nil => rfl
  | cons c rest ih =>
    rw [splitAt, ih, List.splitOn_cons_eq_if_modifyHead]
    by_cases hmark : c = mark
    · rw [if_pos hmark, if_pos (beq_iff_eq.2 hmark)]
    · rw [if_neg hmark, if_neg (mt beq_iff_eq.1 hmark)]
      cases hsplit : rest.splitOn mark with
      | nil => exact absurd hsplit (List.splitOn_ne_nil mark rest)
      | cons piece others => rfl

theorem mark_notMem_of_mem_splitAt {mark : Char} {text piece : List Char}
    (hpiece : piece ∈ splitAt mark text) : mark ∉ piece := by
  induction text generalizing piece with
  | nil =>
    rw [splitAt, List.mem_singleton] at hpiece
    rw [hpiece]
    exact List.not_mem_nil
  | cons c rest ih =>
    rw [splitAt] at hpiece
    by_cases hmark : c = mark
    · rw [if_pos hmark] at hpiece
      rcases List.mem_cons.1 hpiece with rfl | hrest
      · exact List.not_mem_nil
      · exact ih hrest
    · rw [if_neg hmark] at hpiece
      cases hsplit : splitAt mark rest with
      | nil =>
        rw [hsplit, List.mem_singleton] at hpiece
        rw [hpiece, List.mem_singleton]
        exact Ne.symm hmark
      | cons first others =>
        rw [hsplit] at hpiece ih
        rcases List.mem_cons.1 hpiece with rfl | hothers
        · rw [List.mem_cons, not_or]
          exact ⟨Ne.symm hmark, ih List.mem_cons_self⟩
        · exact ih (List.mem_cons_of_mem _ hothers)

/-- A text is written as a name without equals signs, an equals sign, and pieces without commas that
commas join. -/
structure IsWritten (text name : String) (pieces : List String) : Prop where
  text_eq : text = name ++ "=" ++ ",".intercalate pieces
  name_plain : '=' ∉ name.toList
  pieces_plain : ∀ piece ∈ pieces, ',' ∉ piece.toList
  pieces_ne : pieces ≠ []

theorem IsWritten.toList_eq {text name : String} {pieces : List String}
    (hwritten : IsWritten text name pieces) :
    text.toList = name.toList ++ '=' :: [','].intercalate (pieces.map String.toList) := by
  rw [hwritten.text_eq, String.toList_append, String.toList_append, String.toList_intercalate,
    List.append_assoc]
  rfl

/-- The pieces of a text that is written so are those between its commas. -/
theorem IsWritten.splitAt_eq {text name : String} {pieces : List String}
    (hwritten : IsWritten text name pieces) :
    splitAt ',' ([','].intercalate (pieces.map String.toList)) = pieces.map String.toList := by
  rw [splitAt_eq_splitOn]
  apply List.splitOn_intercalate
  · intro piece hpiece
    obtain ⟨given, hgiven, rfl⟩ := List.mem_map.1 hpiece
    exact hwritten.pieces_plain given hgiven
  · exact mt List.map_eq_nil_iff.1 hwritten.pieces_ne

/-- Every text with an equals sign is written so. -/
theorem exists_isWritten {text : String} (hequals : '=' ∈ text.toList) :
    ∃ name pieces, IsWritten text name pieces := by
  obtain ⟨name, written, htext, hname⟩ := List.eq_append_cons_of_mem hequals
  have hpieces : ((splitAt ',' written).map String.ofList).map String.toList =
      splitAt ',' written := by
    have hback : String.toList ∘ String.ofList = id := funext fun _ => String.toList_ofList
    rw [List.map_map, hback, List.map_id]
  refine ⟨String.ofList name, (splitAt ',' written).map String.ofList, ?_, ?_, ?_, ?_⟩
  · rw [← String.toList_inj, String.toList_append, String.toList_append, String.toList_intercalate,
      String.toList_ofList, hpieces, htext, List.append_assoc]
    have hjoined : [','].intercalate (splitAt ',' written) = written := by
      rw [splitAt_eq_splitOn, List.intercalate_splitOn]
    exact congrArg (name ++ '=' :: ·) hjoined.symm
  · rw [String.toList_ofList]
    exact hname
  · intro piece hpiece
    obtain ⟨given, hgiven, rfl⟩ := List.mem_map.1 hpiece
    rw [String.toList_ofList]
    exact mark_notMem_of_mem_splitAt hgiven
  · rw [splitAt_eq_splitOn]
    exact mt List.map_eq_nil_iff.1 (List.splitOn_ne_nil ',' written)

/-! ## Numbers -/

/-- How a piece is read as a number: blanks around it do not count. -/
def IsReadAs (piece : String) (outcome : Except NumberFault Single) : Prop :=
  ∃ core, Text.IsTrimmed piece.toList core ∧ Single.parse core = outcome

theorem isReadAs_iff {piece : String} {outcome : Except NumberFault Single} :
    IsReadAs piece outcome ↔ Single.parse (Text.trim piece.toList) = outcome := by
  simp only [IsReadAs, Text.isTrimmed_iff, exists_eq_left]

theorem numberOf_eq_ok_iff {piece : String} {x : Single} :
    numberOf piece.toList = .ok x ↔ IsReadAs piece (.ok x) := by
  rw [isReadAs_iff, numberOf]
  cases Single.parse (Text.trim piece.toList) with
  | ok y => simp [Except.mapError]
  | error reason => simp [Except.mapError]

/-- A piece that is no number is reported as it is written. -/
theorem numberOf_eq_error_iff {piece : String} {fault : UniformFault} :
    numberOf piece.toList = .error fault ↔
      ∃ reason, IsReadAs piece (.error reason) ∧ fault = .number piece reason := by
  simp only [isReadAs_iff, numberOf]
  cases Single.parse (Text.trim piece.toList) with
  | ok y => simp [Except.mapError]
  | error reason => simp [Except.mapError, String.ofList_toList, eq_comm]

/-- How pieces are read as numbers, one by one. -/
def AreReadAs (pieces : List String) (numbers : List Single) : Prop :=
  List.Forall₂ (fun piece x => IsReadAs piece (.ok x)) pieces numbers

theorem mapM_numberOf_eq_ok_iff {pieces : List String} {numbers : List Single} :
    pieces.mapM (fun piece => numberOf piece.toList) = .ok numbers ↔ AreReadAs pieces numbers := by
  simp only [AreReadAs, ← numberOf_eq_ok_iff]
  exact ⟨forall₂_of_mapM_eq_ok, mapM_eq_ok_of_forall₂⟩

theorem exists_areReadAs_iff {pieces : List String} :
    (∃ numbers, AreReadAs pieces numbers) ↔ ∀ piece ∈ pieces, ∃ x, IsReadAs piece (.ok x) := by
  constructor
  · rintro ⟨numbers, hnumbers⟩ piece hpiece
    induction hnumbers with
    | nil => cases hpiece
    | cons hfirst _ ih =>
      rcases List.mem_cons.1 hpiece with rfl | hrest
      · exact ⟨_, hfirst⟩
      · exact ih hrest
  · intro hpieces
    induction pieces with
    | nil => exact ⟨[], .nil⟩
    | cons piece rest ih =>
      obtain ⟨⟨x, hx⟩, hrest⟩ := List.forall_mem_cons.1 hpieces
      obtain ⟨numbers, hnumbers⟩ := ih hrest
      exact ⟨x :: numbers, .cons hx hnumbers⟩

/-- One to four numbers make a vector of floats with just these components, in order. -/
theorem valueOf?_eq_some_iff {numbers : List Single} {value : Value} :
    valueOf? numbers = some value ↔
      ∃ width components, value = .floats width components ∧ components.toList = numbers := by
  constructor
  · intro hvalue
    unfold valueOf? at hvalue
    split at hvalue
    · cases hvalue
      exact ⟨.one, _, rfl, rfl⟩
    · cases hvalue
      exact ⟨.two, _, rfl, rfl⟩
    · cases hvalue
      exact ⟨.three, _, rfl, rfl⟩
    · cases hvalue
      exact ⟨.four, _, rfl, rfl⟩
    · cases hvalue
  · rintro ⟨width, ⟨⟨numbers⟩, hcount⟩, rfl, rfl⟩
    cases width with
    | one =>
      match numbers, hcount with
      | [x], _ => rfl
    | two =>
      match numbers, hcount with
      | [x, y], _ => rfl
    | three =>
      match numbers, hcount with
      | [x, y, z], _ => rfl
    | four =>
      match numbers, hcount with
      | [x, y, z, w], _ => rfl

/-- Just lists of one to four numbers make a value. -/
theorem valueOf?_eq_none_iff {numbers : List Single} (hne : numbers ≠ []) :
    valueOf? numbers = none ↔ 4 < numbers.length := by
  match numbers, hne with
  | [_], _ | [_, _], _ | [_, _, _], _ | [_, _, _, _], _ => simp [valueOf?]
  | _ :: _ :: _ :: _ :: _ :: _, _ => simp [valueOf?]

/-! ## Uniforms -/

/-- What the numbers of a uniform make of it. -/
def uniformOf (name : String) (numbers : List Single) : Except UniformFault (String × Value) :=
  match valueOf? numbers with
  | some value => .ok (name, value)
  | none => .error (.componentCount name)

theorem uniformOf_eq_ok_iff {name name' : String} {numbers : List Single} {value : Value} :
    uniformOf name numbers = .ok (name', value) ↔ name = name' ∧ valueOf? numbers = some value := by
  unfold uniformOf
  cases valueOf? numbers <;> simp

theorem uniformOf_eq_error_iff {name : String} {numbers : List Single} {fault : UniformFault}
    (hne : numbers ≠ []) :
    uniformOf name numbers = .error fault ↔ 4 < numbers.length ∧ fault = .componentCount name := by
  rw [← valueOf?_eq_none_iff hne]
  unfold uniformOf
  cases valueOf? numbers <;> simp [eq_comm]

theorem forall_decide_ne_equals {text : List Char} (habsent : '=' ∉ text) :
    ∀ c ∈ text, decide (c ≠ '=') = true := by
  intro c hc
  rw [decide_eq_true_eq]
  rintro rfl
  exact habsent hc

theorem parseUniform_of_notMem {text : String} (habsent : '=' ∉ text.toList) :
    parseUniform text = .error (.noEquals text) := by
  rw [parseUniform, List.dropWhile_eq_nil_iff.2 (forall_decide_ne_equals habsent)]

/-- A text that is written so is read piece by piece, and then named. -/
theorem IsWritten.parseUniform_eq {text name : String} {pieces : List String}
    (hwritten : IsWritten text name pieces) :
    parseUniform text = pieces.mapM (fun piece => numberOf piece.toList) >>= uniformOf name := by
  have hpassed := forall_decide_ne_equals hwritten.name_plain
  have hname : text.toList.takeWhile (· ≠ '=') = name.toList := by
    rw [hwritten.toList_eq, List.takeWhile_append_of_pos hpassed]
    exact List.append_nil _
  have hbehind : text.toList.dropWhile (· ≠ '=') =
      '=' :: [','].intercalate (pieces.map String.toList) := by
    rw [hwritten.toList_eq, List.dropWhile_append_of_pos hpassed]
    rfl
  simp only [parseUniform, hname, hbehind, hwritten.splitAt_eq, List.mapM_map, String.ofList_toList]
  rfl

section Written

variable {text name : String} {pieces : List String} (hwritten : IsWritten text name pieces)

include hwritten

theorem IsWritten.parseUniform_eq_ok_iff {name' : String} {value : Value} :
    parseUniform text = .ok (name', value) ↔
      name = name' ∧ ∃ numbers, AreReadAs pieces numbers ∧ valueOf? numbers = some value := by
  rw [hwritten.parseUniform_eq]
  constructor
  · intro hok
    obtain ⟨numbers, hnumbers, hvalue⟩ := exists_of_bind_eq_ok hok
    obtain ⟨hname, hvalue⟩ := uniformOf_eq_ok_iff.1 hvalue
    exact ⟨hname, numbers, mapM_numberOf_eq_ok_iff.1 hnumbers, hvalue⟩
  · rintro ⟨hname, numbers, hnumbers, hvalue⟩
    rw [mapM_numberOf_eq_ok_iff.2 hnumbers]
    exact uniformOf_eq_ok_iff.2 ⟨hname, hvalue⟩

theorem IsWritten.numbers_ne {numbers : List Single} (hnumbers : AreReadAs pieces numbers) :
    numbers ≠ [] := by
  rintro rfl
  exact hwritten.pieces_ne (List.forall₂_nil_right_iff.1 hnumbers)

/-- A piece that is no number counts before the number of pieces does. -/
theorem IsWritten.parseUniform_eq_error_iff {fault : UniformFault} :
    parseUniform text = .error fault ↔
      (∃ first piece rest reason, pieces = first ++ piece :: rest ∧
        (∀ other ∈ first, ∃ x, IsReadAs other (.ok x)) ∧ IsReadAs piece (.error reason) ∧
        fault = .number piece reason) ∨
      ((∀ piece ∈ pieces, ∃ x, IsReadAs piece (.ok x)) ∧ 4 < pieces.length ∧
        fault = .componentCount name) := by
  rw [hwritten.parseUniform_eq]
  constructor
  · intro herror
    rcases eq_error_or_of_bind_eq_error herror with hnumber | ⟨numbers, hnumbers, hcount⟩
    · obtain ⟨first, piece, rest, hsplit, hfirst, hpiece⟩ := mapM_eq_error_iff.1 hnumber
      obtain ⟨reason, hreason, hfault⟩ := numberOf_eq_error_iff.1 hpiece
      simp only [numberOf_eq_ok_iff] at hfirst
      exact .inl ⟨first, piece, rest, reason, hsplit, hfirst, hreason, hfault⟩
    · have hread := mapM_numberOf_eq_ok_iff.1 hnumbers
      obtain ⟨hcount, hfault⟩ := (uniformOf_eq_error_iff (hwritten.numbers_ne hread)).1 hcount
      rw [← hread.length_eq] at hcount
      exact .inr ⟨exists_areReadAs_iff.1 ⟨numbers, hread⟩, hcount, hfault⟩
  · rintro (⟨first, piece, rest, reason, hsplit, hfirst, hreason, hfault⟩ | ⟨hread, hcount, hfault⟩)
    · simp only [← numberOf_eq_ok_iff] at hfirst
      have hpiece := numberOf_eq_error_iff.2 ⟨reason, hreason, hfault⟩
      rw [mapM_eq_error_iff.2 ⟨first, piece, rest, hsplit, hfirst, hpiece⟩]
      rfl
    · obtain ⟨numbers, hnumbers⟩ := exists_areReadAs_iff.2 hread
      rw [hnumbers.length_eq] at hcount
      rw [mapM_numberOf_eq_ok_iff.2 hnumbers]
      exact (uniformOf_eq_error_iff (hwritten.numbers_ne hnumbers)).2 ⟨hcount, hfault⟩

/-- At most four pieces that are numbers are accepted. -/
theorem IsWritten.isOk_parseUniform :
    (parseUniform text).isOk = true ↔
      pieces.length ≤ 4 ∧ ∀ piece ∈ pieces, ∃ x, IsReadAs piece (.ok x) := by
  cases hparse : parseUniform text with
  | ok result =>
    obtain ⟨_, numbers, hnumbers, hvalue⟩ := hwritten.parseUniform_eq_ok_iff.1 hparse
    have hcount : ¬4 < numbers.length := by
      rw [← valueOf?_eq_none_iff (hwritten.numbers_ne hnumbers), hvalue]
      exact Option.some_ne_none _
    rw [hnumbers.length_eq]
    exact ⟨fun _ => ⟨Nat.le_of_not_lt hcount, exists_areReadAs_iff.1 ⟨numbers, hnumbers⟩⟩,
      fun _ => rfl⟩
  | error fault =>
    constructor
    · intro hok
      cases hok
    · rintro ⟨hcount, hpieces⟩
      rcases hwritten.parseUniform_eq_error_iff.1 hparse with
        ⟨first, piece, rest, reason, rfl, _, hpiece, _⟩ | ⟨_, hmany, _⟩
      · obtain ⟨x, hx⟩ := hpieces piece (by simp)
        rw [isReadAs_iff] at hpiece hx
        rw [hpiece] at hx
        cases hx
      · exact absurd hmany (Nat.not_lt_of_le hcount)

end Written

/-- A text is a uniform of a name and a value: it is written with this name, its pieces are numbers, and
the value is the vector of these numbers. -/
def IsUniform (text name : String) (value : Value) : Prop :=
  ∃ pieces numbers, IsWritten text name pieces ∧ AreReadAs pieces numbers ∧
    ∃ width components, value = .floats width components ∧ components.toList = numbers

inductive IsRefused (text : String) : UniformFault → Prop where
  | noEquals (habsent : '=' ∉ text.toList) : IsRefused text (.noEquals text)
  /-- All pieces before one are numbers, but this one is not. -/
  | number {name piece : String} {first rest : List String} {reason : NumberFault}
      (hwritten : IsWritten text name (first ++ piece :: rest))
      (hfirst : ∀ other ∈ first, ∃ x, IsReadAs other (.ok x))
      (hpiece : IsReadAs piece (.error reason)) : IsRefused text (.number piece reason)
  /-- All pieces are numbers, but they are too many. -/
  | componentCount {name : String} {pieces : List String} (hwritten : IsWritten text name pieces)
      (hpieces : ∀ piece ∈ pieces, ∃ x, IsReadAs piece (.ok x)) (hcount : 4 < pieces.length) :
      IsRefused text (.componentCount name)

theorem parseUniform_eq_ok_iff {text name : String} {value : Value} :
    parseUniform text = .ok (name, value) ↔ IsUniform text name value := by
  constructor
  · intro hok
    by_cases hequals : '=' ∈ text.toList
    · obtain ⟨written, pieces, hwritten⟩ := exists_isWritten hequals
      obtain ⟨rfl, numbers, hnumbers, hvalue⟩ := hwritten.parseUniform_eq_ok_iff.1 hok
      exact ⟨pieces, numbers, hwritten, hnumbers, valueOf?_eq_some_iff.1 hvalue⟩
    · rw [parseUniform_of_notMem hequals] at hok
      cases hok
  · rintro ⟨pieces, numbers, hwritten, hnumbers, hvalue⟩
    exact hwritten.parseUniform_eq_ok_iff.2
      ⟨rfl, numbers, hnumbers, valueOf?_eq_some_iff.2 hvalue⟩

theorem parseUniform_eq_error_iff {text : String} {fault : UniformFault} :
    parseUniform text = .error fault ↔ IsRefused text fault := by
  constructor
  · intro herror
    by_cases hequals : '=' ∈ text.toList
    · obtain ⟨name, pieces, hwritten⟩ := exists_isWritten hequals
      rcases hwritten.parseUniform_eq_error_iff.1 herror with
        ⟨first, piece, rest, reason, rfl, hfirst, hpiece, rfl⟩ | ⟨hpieces, hcount, rfl⟩
      · exact .number hwritten hfirst hpiece
      · exact .componentCount hwritten hpieces hcount
    · rw [parseUniform_of_notMem hequals] at herror
      cases herror
      exact .noEquals hequals
  · intro hrefused
    cases hrefused with
    | noEquals habsent => exact parseUniform_of_notMem habsent
    | number hwritten hfirst hpiece =>
      exact hwritten.parseUniform_eq_error_iff.2 (.inl ⟨_, _, _, _, rfl, hfirst, hpiece, rfl⟩)
    | componentCount hwritten hpieces hcount =>
      exact hwritten.parseUniform_eq_error_iff.2 (.inr ⟨hpieces, hcount, rfl⟩)

theorem isOk_parseUniform_iff {text : String} :
    (parseUniform text).isOk = true ↔ ∃ name pieces, IsWritten text name pieces ∧
      pieces.length ≤ 4 ∧ ∀ piece ∈ pieces, ∃ x, IsReadAs piece (.ok x) := by
  constructor
  · intro hok
    by_cases hequals : '=' ∈ text.toList
    · obtain ⟨name, pieces, hwritten⟩ := exists_isWritten hequals
      exact ⟨name, pieces, hwritten, hwritten.isOk_parseUniform.1 hok⟩
    · rw [parseUniform_of_notMem hequals] at hok
      cases hok
  · rintro ⟨name, pieces, hwritten, hpieces⟩
    exact hwritten.isOk_parseUniform.2 hpieces

/-- A text is read as the uniform that it is, and refused for the reason why it is none. It is read just
if it is written with at most four pieces and all of them are numbers. A refusal quotes a piece that is
no number as it is written. -/
theorem uniforms_parse_exactly (text : String) :
    (∀ name value, parseUniform text = .ok (name, value) ↔ IsUniform text name value) ∧
    ((parseUniform text).isOk = true ↔ ∃ name pieces, IsWritten text name pieces ∧
      pieces.length ≤ 4 ∧ ∀ piece ∈ pieces, ∃ x, IsReadAs piece (.ok x)) ∧
    (∀ fault, parseUniform text = .error fault ↔ IsRefused text fault) ∧
    ∀ piece reason, (UniformFault.number piece reason).message =
      "invalid number '" ++ piece ++ "': " ++ reason.message :=
  ⟨fun _ _ => parseUniform_eq_ok_iff, isOk_parseUniform_iff, fun _ => parseUniform_eq_error_iff,
    fun _ _ => rfl⟩

/-- A piece that is no number counts, although there are too many pieces. -/
example : parseUniform "tint=1, x,3,4,5" = .error (.number " x" .invalid) := by rfl

end CommandLine

end FramePlan
