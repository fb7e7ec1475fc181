/-
# Lines of settings, written and read

`EnvFile.Layout.write` writes a line that assigns a value to a name: the word `export` may stand in
front, quotes of one kind stand around the value, and white space may stand at the ends of the line,
after the word, and around the equals sign.  Reading such a line gives back the name and the value,
but for quotes at the ends of the value: the reader takes all of these off, whichever kind encloses
the value (`EnvFile.parseLine?_write`).
-/
import GreatCircle.Proofs.Settings.LayeredEnvironment

namespace GreatCircle

namespace Text

/-- The first mark is where a text is cut. -/
lemma cutAt?_append {α : Type} [DecidableEq α] {mark : α} {before : List α} (h : mark ∉ before)
    (after : List α) : cutAt? mark (before ++ mark :: after) = some (before, after) := by
  have hbefore : ∀ c ∈ before, (c != mark) = true := by
    intro c hc
    have hne : c ≠ mark := by
      rintro rfl
      exact h hc
    simpa using hne
  simp [cutAt?, List.dropWhile_append_of_pos hbefore, List.takeWhile_append_of_pos hbefore]

end Text

namespace EnvFile

/-- A kind of quote. -/
inductive Quote where
  | single
  | double

/-- The quote itself. -/
def Quote.mark : Quote → Char
  | single => '\''
  | double => '"'

/-- A value in quotes. -/
def Quote.enclose (quote : Quote) (value : Text) : Text :=
  ⟨CodePoint.ofChar quote.mark :: value.points ++ [CodePoint.ofChar quote.mark]⟩

/-- The white space of a line that assigns a value, and whether it exports the variable. -/
structure Layout where
  /-- White space in front. -/
  start : Text.Blank := .none
  /-- White space after the word `export` and a space, if these stand in front of the name. -/
  exported? : Option Text.Blank := none
  /-- White space before the equals sign. -/
  beforeEquals : Text.Blank := .none
  /-- White space after the equals sign. -/
  afterEquals : Text.Blank := .none
  /-- White space at the end. -/
  finish : Text.Blank := .none

/-- The word that marks a variable as exported. -/
def exportWord : Text := "export "

namespace Layout

/-- What stands in front of the name. -/
def front (layout : Layout) : Text :=
  match layout.exported? with
  | none => ""
  | some blank => exportWord ++ blank.text

/-- What follows the equals sign, without the white space at the end. -/
def quoted (layout : Layout) (quote : Quote) (value : Text) : Text :=
  layout.afterEquals.text ++ quote.enclose value

/-- The assignment, without what stands in front of the name and at the end. -/
def assignment (layout : Layout) (quote : Quote) (name value : Text) : Text :=
  name ++ layout.beforeEquals.text ++ "=" ++ layout.quoted quote value

/-- The line that assigns a value to a name. -/
def write (layout : Layout) (quote : Quote) (name value : Text) : Text :=
  layout.start.text ++ (layout.front ++ layout.assignment quote name value) ++ layout.finish.text

end Layout

/-- A name that can be written as it is. -/
structure IsName (name : Text) : Prop where
  notEmpty : name ≠ ""
  noEquals : CodePoint.ofChar '=' ∉ name.points
  stripped : name.strip = name
  notComment : name.points.head? ≠ some (CodePoint.ofChar '#')
  notExport : ¬ exportWord.points <+: name.points
  notWord : name ≠ "export"

lemma isName_iff {name : Text} : IsName name ↔ name ≠ "" ∧ CodePoint.ofChar '=' ∉ name.points ∧
    name.strip = name ∧ name.points.head? ≠ some (CodePoint.ofChar '#') ∧
      ¬ exportWord.points <+: name.points ∧ name ≠ "export" := by
  constructor
  · rintro ⟨h1, h2, h3, h4, h5, h6⟩
    exact ⟨h1, h2, h3, h4, h5, h6⟩
  · rintro ⟨h1, h2, h3, h4, h5, h6⟩
    exact ⟨h1, h2, h3, h4, h5, h6⟩

instance (name : Text) : Decidable (IsName name) := decidable_of_iff' _ isName_iff

/-- Up to the space the word holds neither white space nor equals signs. -/
lemma letter_of_exportWord : ∀ n < 6, ∀ c ∈ (exportWord.points.drop n).head?,
    Text.isBlank c = false ∧ c ≠ CodePoint.ofChar '=' := by
  decide

namespace Layout

variable (layout : Layout) (tail : List CodePoint)

/-- What follows the name: white space, the equals sign, and more. -/
def afterName : List CodePoint := layout.beforeEquals.text.points ++ CodePoint.ofChar '=' :: tail

lemma head_afterName {c : CodePoint} (hc : c ∈ (layout.afterName tail).head?) :
    Text.isBlank c = true ∨ c = CodePoint.ofChar '=' := by
  rw [afterName] at hc
  cases hblank : layout.beforeEquals.text.points with
  | nil =>
    rw [hblank] at hc
    right
    simpa using hc.symm
  | cons b more =>
    rw [hblank] at hc
    obtain rfl : b = c := by simpa using hc
    left
    refine layout.beforeEquals.isBlank b ?_
    rw [hblank]
    exact List.mem_cons_self

end Layout

namespace IsName

variable {name : Text} (hname : IsName name)
include hname

lemma points_ne_nil : name.points ≠ [] := by
  intro hnil
  exact hname.notEmpty (congrArg Text.mk hnil)

lemma noneAtEnds : Text.NoneAtEnds Text.isBlank name.points :=
  Text.strip_eq_self_iff.1 hname.stripped

/-- What follows a name does not make the word `export` of it. -/
lemma not_export_of_afterName (layout : Layout) (tail : List CodePoint) :
    ¬ exportWord.points <+: name.points ++ layout.afterName tail := by
  intro hword
  have hwhole := List.prefix_append name.points (layout.afterName tail)
  rcases le_or_gt exportWord.points.length name.points.length with hlong | hshort
  · exact hname.notExport (List.prefix_of_prefix_length_le hword hwhole hlong)
  · -- the name is a beginning of the word, so the word goes on where the name ends
    have htake := List.prefix_iff_eq_take.1
      (List.prefix_of_prefix_length_le hwhole hword hshort.le)
    have hsplit : exportWord.points =
        name.points ++ exportWord.points.drop name.points.length := by
      conv_lhs => rw [← List.take_append_drop name.points.length exportWord.points, ← htake]
    rw [hsplit, List.prefix_append_right_inj] at hword
    have hlength : exportWord.points.length = 7 := rfl
    rcases Nat.lt_or_ge name.points.length 6 with hletter | hspace
    · -- it goes on with a letter
      have hne : exportWord.points.drop name.points.length ≠ [] := by
        rw [ne_eq, List.drop_eq_nil_iff]
        omega
      have hhead := List.head?_eq_some_head hne
      obtain ⟨hblank, hequals⟩ := letter_of_exportWord _ hletter _ hhead
      rw [hword.head hne] at hblank hequals
      rcases layout.head_afterName tail (List.head?_eq_some_head _) with h | h
      · rw [hblank] at h
        contradiction
      · exact hequals h
    · -- the name is all of the word but the space
      have hsix : name.points.length = 6 := by omega
      rw [hsix] at htake
      exact hname.notWord (congrArg Text.mk htake)

end IsName

/-! ### The steps of the reader -/

lemma dropExport_eq (text : List CodePoint) :
    dropExport text = if exportWord.points.isPrefixOf text then
      (text.drop 7).dropWhile Text.isBlank else text := rfl

lemma dropExport_of_not_export {text : List CodePoint} (h : ¬ exportWord.points <+: text) :
    dropExport text = text := by
  rw [← List.isPrefixOf_iff_prefix] at h
  rw [dropExport_eq, if_neg h]

lemma dropExport_append (text : List CodePoint) :
    dropExport (exportWord.points ++ text) = text.dropWhile Text.isBlank := by
  have hword := List.isPrefixOf_iff_prefix.2 (List.prefix_append exportWord.points text)
  have hlength : exportWord.points.length = 7 := rfl
  rw [dropExport_eq, if_pos hword, List.drop_left' hlength]

lemma Quote.isBlank_mark (quote : Quote) : Text.isBlank (CodePoint.ofChar quote.mark) = false := by
  cases quote <;> rfl

lemma Quote.isQuote_mark (quote : Quote) : isQuote (CodePoint.ofChar quote.mark) = true := by
  cases quote <;> rfl

/-- The quotes around a value go with those at its ends. -/
lemma Quote.trim_enclose (quote : Quote) (value : Text) :
    Text.trim isQuote (quote.enclose value).points = Text.trim isQuote value.points := by
  have hquote : ∀ c ∈ [CodePoint.ofChar quote.mark], isQuote c = true := by
    intro c hc
    rw [List.mem_singleton.1 hc, quote.isQuote_mark]
  exact Text.trim_padded hquote hquote value.points

section Write

variable {name : Text} (layout : Layout) (quote : Quote) (value : Text)

lemma points_assignment : (layout.assignment quote name value).points =
    name.points ++ layout.afterName (layout.quoted quote value).points := by
  simp [Layout.assignment, Layout.afterName, Text.points_append, Text.ofString, Text.ofChars]

/-- The quotes keep the white space of a value. -/
lemma strip_quoted : (layout.quoted quote value).strip = quote.enclose value := by
  have hends : Text.NoneAtEnds Text.isBlank (quote.enclose value).points :=
    ⟨fun _ => quote.isBlank_mark, fun _ => by simp [Quote.enclose, quote.isBlank_mark]⟩
  rw [Layout.quoted, Text.strip_blank_append, Text.strip_eq_self_iff.2 hends]

variable (hname : IsName name)
include hname

lemma assignment_ne_nil : (layout.assignment quote name value).points ≠ [] := by
  simp [points_assignment, hname.points_ne_nil]

/-- An assignment begins with the name and ends with a quote. -/
lemma noneAtEnds_assignment :
    Text.NoneAtEnds Text.isBlank (layout.assignment quote name value).points := by
  constructor
  · intro _
    simp only [points_assignment, List.head_append_of_ne_nil hname.points_ne_nil]
    exact hname.noneAtEnds.head _
  · intro _
    simp [points_assignment, Layout.afterName, Layout.quoted, Quote.enclose, quote.isBlank_mark]

lemma strip_write : (layout.write quote name value).strip =
    layout.front ++ layout.assignment quote name value := by
  have hends := noneAtEnds_assignment layout quote value hname
  rw [Layout.write, Text.strip_padded, Text.strip_eq_self_iff]
  cases hexport : layout.exported? with
  | none =>
    rw [Layout.front, hexport]
    exact hends
  | some blank =>
    have hfront : layout.front = exportWord ++ blank.text := by rw [Layout.front, hexport]
    have hne : (exportWord ++ blank.text).points ≠ [] := List.cons_ne_nil _ _
    rw [hfront]
    exact Text.noneAtEnds_append hne rfl (assignment_ne_nil layout quote value hname) (hends.last _)

lemma dropExport_line : dropExport (layout.front ++ layout.assignment quote name value).points =
    (layout.assignment quote name value).points := by
  cases hexport : layout.exported? with
  | none =>
    rw [Layout.front, hexport]
    refine dropExport_of_not_export ?_
    rw [Text.points_append, points_assignment]
    exact hname.not_export_of_afterName layout _
  | some blank =>
    rw [Layout.front, hexport, Text.points_append, Text.points_append, List.append_assoc,
      dropExport_append, List.dropWhile_append_of_pos blank.isBlank]
    have hne := assignment_ne_nil layout quote value hname
    have hhead := (noneAtEnds_assignment layout quote value hname).head hne
    cases hpoints : (layout.assignment quote name value).points with
    | nil => rfl
    | cons c rest =>
      simp only [hpoints, List.head_cons] at hhead
      rw [List.dropWhile_cons, if_neg (by simp [hhead])]

/-- The line is cut after the name. -/
lemma cutAt?_assignment :
    Text.cutAt? (CodePoint.ofChar '=') (layout.assignment quote name value).points =
      some ((name ++ layout.beforeEquals.text).points, (layout.quoted quote value).points) := by
  have hequals : CodePoint.ofChar '=' ∉ (name ++ layout.beforeEquals.text).points := by
    intro hmem
    rcases List.mem_append.1 hmem with h | h
    · exact hname.noEquals h
    · exact absurd (layout.beforeEquals.isBlank _ h) (by decide)
  rw [points_assignment, Layout.afterName, ← List.append_assoc]
  exact Text.cutAt?_append hequals _

lemma head?_assignment : (layout.assignment quote name value).points.head? = name.points.head? := by
  rw [points_assignment, List.head?_append_of_ne_nil _ hname.points_ne_nil]

/-- **What is written is read back, but for quotes at the ends of the value.**  The reader takes off
every quote at the ends of the value, of whichever kind.  So it gives back the very name and value
that were written just if the value neither begins nor ends with a quote. -/
theorem parseLine?_write :
    parseLine? (layout.write quote name value) = some (name, ⟨Text.trim isQuote value.points⟩) ∧
      (parseLine? (layout.write quote name value) = some (name, value) ↔
        Text.NoneAtEnds isQuote value.points) := by
  have hread : parseLine? (layout.write quote name value) =
      some (name, ⟨Text.trim isQuote value.points⟩) := by
    have hcomment := hname.notComment
    rw [← head?_assignment layout quote value hname] at hcomment
    have hstrip : Text.strip ⟨(name ++ layout.beforeEquals.text).points⟩ = name :=
      (Text.strip_append_blank name layout.beforeEquals).trans hname.stripped
    have hvalue : Text.strip ⟨(layout.quoted quote value).points⟩ = quote.enclose value :=
      strip_quoted layout quote value
    have hempty : name.isEmpty = false := by
      simpa [Text.isEmpty] using hname.points_ne_nil
    simp only [parseLine?, strip_write layout quote value hname,
      dropExport_line layout quote value hname, cutAt?_assignment layout quote value hname, hstrip,
      hvalue, hempty, quote.trim_enclose]
    exact if_neg hcomment
  refine ⟨hread, ?_⟩
  rw [hread, ← Text.trim_eq_self_iff, ← Text.mk_eq_iff]
  simp

end Write

/-- A line with white space wherever it may stand; the value holds white space, an equals sign, a
number sign and a quote of the other kind. -/
theorem parseLine?_write_exported :
    parseLine? " export  LABEL =  \"it's # 1 = 2 \" " =
      some (("LABEL" : Text), ("it's # 1 = 2 " : Text)) := by
  let blank : Text.Blank := ⟨" ", by decide⟩
  let wide : Text.Blank := ⟨"  ", by decide⟩
  have hwritten : Layout.write ⟨blank, some blank, blank, wide, blank⟩ .double "LABEL"
      "it's # 1 = 2 " = " export  LABEL =  \"it's # 1 = 2 \" " := by decide
  rw [← hwritten, (parseLine?_write _ .double "it's # 1 = 2 " (by decide)).2]
  exact ⟨by decide, by decide⟩

/-- Quotes that belong to the value are lost at its ends, though they are not of the kind that
encloses it. -/
theorem parseLine?_write_inner_quotes :
    IsName "K" ∧ CodePoint.ofChar Quote.double.mark ∉ ("'a'" : Text).points ∧
      (∀ c ∈ ("K" : Text).points ++ ("'a'" : Text).points,
        c ≠ CodePoint.ofChar '\n' ∧ c ≠ CodePoint.ofChar '\r') ∧
      ({} : Layout).write .double "K" "'a'" = "K=\"'a'\"" ∧
      parseLine? "K=\"'a'\"" = some (("K" : Text), ("a" : Text)) ∧
      parseLine? "K=\"'a'\"" ≠ some (("K" : Text), ("'a'" : Text)) := by
  decide

end EnvFile

end GreatCircle
