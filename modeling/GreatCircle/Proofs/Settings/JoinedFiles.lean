/-
# One file of settings after another

`EnvFile.followedBy` puts the lines of a file after those of another.  The joined file assigns what
the one assigns and then what the other does (`EnvFile.exists_text_followedBy`): a line end between
them is all it takes, even where the first file ends with a carriage return, which this line end
completes.
-/
import GreatCircle.Proofs.Settings.LayeredEnvironment

namespace GreatCircle

namespace Text

lemma fromUTF8?_eq_some_iff {bytes : ByteArray} {s : String} :
    String.fromUTF8? bytes = some s ↔ s.toUTF8 = bytes := by
  rw [String.toUTF8_eq_toByteArray, String.fromUTF8?]
  constructor
  · intro h
    split at h
    · rw [← Option.some.inj h]
      rfl
    · contradiction
  · rintro rfl
    rw [dif_pos s.isValidUTF8]
    rfl

/-- The lines of one text and then those of another: a line end stands between them, unless the
first text ends with one. -/
inductive JoinsLines (xs ys : List Char) : List Char → Prop
  | between : JoinsLines xs ys (xs ++ '\n' :: ys)
  | ended {lines : List Char} (h : xs = lines ++ ['\n']) : JoinsLines xs ys (xs ++ ys)

lemma JoinsLines.cons {xs ys joined : List Char} (h : JoinsLines xs ys joined) (c : Char) :
    JoinsLines (c :: xs) ys (c :: joined) := by
  cases h with
  | between => exact .between
  | @ended lines hlines =>
    have hcons : c :: xs = (c :: lines) ++ ['\n'] := congrArg (c :: ·) hlines
    exact .ended hcons

/-- A line end after some characters ends their last line, or completes the carriage return that
does. -/
lemma unifyLineEnds_joins (cs ds : List Char) :
    JoinsLines (unifyLineEnds cs) (unifyLineEnds ds) (unifyLineEnds (cs ++ '\n' :: ds)) := by
  induction cs using unifyLineEnds.induct with
  | case1 rest ih =>
    rw [List.cons_append, List.cons_append, unifyLineEnds, unifyLineEnds]
    exact ih.cons '\n'
  | case2 rest hrest ih =>
    rw [List.cons_append, unifyLineEnds.eq_2 rest hrest]
    cases rest with
    | nil =>
      have hend : ['\n'] = [] ++ ['\n'] := rfl
      exact .ended hend
    | cons c more =>
      have hmore : ∀ tail, c :: more ++ '\n' :: ds = '\n' :: tail → False := by
        intro tail htail
        exact hrest more (by rw [(List.cons.inj htail).1])
      rw [unifyLineEnds.eq_2 _ hmore]
      exact ih.cons '\n'
  | case3 c rest hpair hc ih =>
    have happended : ∀ tail, c = '\r' → rest ++ '\n' :: ds = '\n' :: tail → False :=
      fun _ hreturn _ => hc hreturn
    rw [List.cons_append, unifyLineEnds.eq_3 c rest hpair hc,
      unifyLineEnds.eq_3 c _ happended hc]
    exact ih.cons c
  | case4 => exact .between

end Text

namespace EnvFile

/-- The assignments of two texts, one line end between them. -/
lemma parse_append (xs ys : List Char) : parse (xs ++ '\n' :: ys) = parse xs ++ parse ys := by
  rw [parse, Text.splitOn_eq_listSplitOn, List.splitOn_append_cons_self, List.filterMap_append]
  simp only [parse, Text.splitOn_eq_listSplitOn]

lemma parse_of_joinsLines {xs ys joined : List Char} (h : Text.JoinsLines xs ys joined) :
    parse joined = parse xs ++ parse ys := by
  cases h with
  | between => exact parse_append xs ys
  | @ended lines hlines =>
    -- the line after the last line end is empty and assigns nothing
    have hnil : parse [] = [] := by decide
    have hend : parse xs = parse lines := by
      rw [hlines, parse_append, hnil, List.append_nil]
    rw [hend, ← parse_append, hlines, List.append_assoc]
    rfl

/-- The file with the lines of another file after its own. -/
def followedBy (bytes next : ByteArray) : ByteArray := bytes ++ "\n".toUTF8 ++ next

/-- The joined file assigns what the first file assigns and then what the second does. -/
lemma exists_text_followedBy {bytes next : ByteArray} {text more : List Char}
    (htext : Text.ofBytes? bytes = some text) (hmore : Text.ofBytes? next = some more) :
    ∃ whole, Text.ofBytes? (followedBy bytes next) = some whole ∧
      parse whole = parse text ++ parse more := by
  obtain ⟨s, hs, rfl⟩ := Option.map_eq_some_iff.1 htext
  obtain ⟨t, ht, rfl⟩ := Option.map_eq_some_iff.1 hmore
  rw [Text.fromUTF8?_eq_some_iff] at hs ht
  have hjoined : String.fromUTF8? (followedBy bytes next) = some (s ++ "\n" ++ t) := by
    rw [Text.fromUTF8?_eq_some_iff, followedBy, ← hs, ← ht]
    simp only [String.toUTF8_eq_toByteArray, String.toByteArray_append]
  refine ⟨Text.unifyLineEnds (s ++ "\n" ++ t).toList, ?_, ?_⟩
  · rw [Text.ofBytes?, hjoined, Option.map_some]
  · have hlist : (s ++ "\n" ++ t).toList = s.toList ++ '\n' :: t.toList := by simp
    rw [hlist]
    exact parse_of_joinsLines (Text.unifyLineEnds_joins s.toList t.toList)

end EnvFile

end GreatCircle
