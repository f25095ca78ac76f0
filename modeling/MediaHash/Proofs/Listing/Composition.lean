import MediaHash.Listing.Basic
import MediaHash.Proofs.Text.LineEnds

/-!
# Listings part by part

A listing is read line by line, so texts that are put together behind a line
feed give the claims of one and then those of the other, and a line without a
claim can stand anywhere.

How lines end does not matter either.  Reading lines drops a carriage return
in front of a line feed, and reading a claim drops one more at the end of a
line.  The two agree as long as no line ends in two of them.
-/

namespace MediaHash.Listing

open Text

/-- The claim that the characters of a line state, if they state one. -/
def claimOf (line : List Char) : Option Claim :=
  readCharacters (dropReturn line)

/-- The claims that the characters of a text state, line by line. -/
def claimsIn (text : List Char) : List Claim :=
  (lines text).filterMap claimOf

theorem read_eq (text : String) : read text = ⟨claimsIn text.toList⟩ := by
  have sameReader : readLine ∘ String.ofList = claimOf := by
    funext line
    rw [Function.comp_apply, readLine, String.toList_ofList, claimOf]
  rw [read, linesOf, List.filterMap_map, sameReader, claimsIn]

theorem claimsIn_append {front : List Char} (closed : IsClosed front)
    (back : List Char) :
    claimsIn (front ++ back) = claimsIn front ++ claimsIn back := by
  rw [claimsIn, lines_append closed, List.filterMap_append]
  rfl

/-! ## A line without a claim -/

/-- A line that ends in no carriage return and states no claim. -/
structure Noise (line : String) : Prop where
  oneLine : '\n' ∉ line.toList
  noReturn : '\r' ∉ line.toList
  noClaim : readLine line = none

theorem claimsIn_noise {line : String} (noise : Noise line)
    (back : List Char) :
    claimsIn (line.toList ++ '\n' :: back) = claimsIn back := by
  have lastNoReturn : line.toList.getLast? ≠ some '\r' :=
    fun last => noise.noReturn (List.mem_of_getLast? last)
  have noClaim : claimOf line.toList = none := noise.noClaim
  rw [claimsIn, lines_append_lineFeed noise.oneLine lastNoReturn,
    List.filterMap_cons_none noClaim, claimsIn]

/-! ## The end of the last line -/

theorem dropReturn_append_return (line : List Char) :
    dropReturn (line ++ ['\r']) = line := by
  simp [dropReturn]

theorem dropReturn_of_getLast?_ne {line : List Char}
    (noReturn : line.getLast? ≠ some '\r') : dropReturn line = line :=
  if_neg noReturn

/-- A line does not end in two carriage returns. -/
def EndsOnce (line : List Char) : Prop :=
  ¬ ['\r', '\r'] <:+ line

theorem dropReturn_dropReturn {line : List Char} (endsOnce : EndsOnce line) :
    dropReturn (dropReturn line) = dropReturn line := by
  by_cases isReturn : line.getLast? = some '\r'
  · rcases List.getLast?_eq_some_iff.mp isReturn with ⟨start, rfl⟩
    rw [dropReturn_append_return]
    apply dropReturn_of_getLast?_ne
    intro another
    rcases List.getLast?_eq_some_iff.mp another with ⟨early, rfl⟩
    exact endsOnce ⟨early, by simp⟩
  · rw [dropReturn_of_getLast?_ne isReturn,
      dropReturn_of_getLast?_ne isReturn]

theorem claimsIn_of_lines_eq {text line : List Char}
    (isLine : lines text = [line]) :
    claimsIn text = (claimOf line).toList := by
  rw [claimsIn, isLine]
  cases read : claimOf line with
  | none => rw [List.filterMap_cons_none read, List.filterMap_nil]; rfl
  | some claim => rw [List.filterMap_cons_some read, List.filterMap_nil]; rfl

theorem claimsIn_of_oneLine {line : List Char} (oneLine : '\n' ∉ line) :
    claimsIn line = (claimOf line).toList := by
  by_cases nonempty : line = []
  · rw [nonempty]
    rfl
  · exact claimsIn_of_lines_eq (lines_of_oneLine oneLine nonempty)

/-- One carriage return is dropped in front of a line feed. -/
theorem lines_append_feed {line : List Char} (oneLine : '\n' ∉ line) :
    lines (line ++ ['\n']) = [dropReturn line] := by
  by_cases isReturn : line.getLast? = some '\r'
  · rcases List.getLast?_eq_some_iff.mp isReturn with ⟨start, rfl⟩
    have startOneLine : '\n' ∉ start := by
      intro member
      exact oneLine (List.mem_append_left _ member)
    rw [dropReturn_append_return, List.append_assoc]
    exact lines_append_return startOneLine []
  · rw [lines_append_lineFeed oneLine isReturn,
      dropReturn_of_getLast?_ne isReturn]
    rfl

/-- A line feed at the end changes nothing. -/
theorem claimsIn_append_feed {text : List Char} (endsOnce : EndsOnce text) :
    claimsIn (text ++ ['\n']) = claimsIn text := by
  rcases exists_closed_append text with ⟨front, tail, rfl, closed, oneLine⟩
  have tailEndsOnce : EndsOnce tail :=
    fun double => endsOnce (double.trans (List.suffix_append front tail))
  rw [List.append_assoc, claimsIn_append closed, claimsIn_append closed,
    claimsIn_of_lines_eq (lines_append_feed oneLine),
    claimsIn_of_oneLine oneLine, claimOf, claimOf,
    dropReturn_dropReturn tailEndsOnce]

/-- A first carriage return at the end changes nothing. -/
theorem claimsIn_append_return {text : List Char}
    (noReturn : text.getLast? ≠ some '\r') :
    claimsIn (text ++ ['\r']) = claimsIn text := by
  rcases exists_closed_append text with ⟨front, tail, rfl, closed, oneLine⟩
  have tailNoReturn : tail.getLast? ≠ some '\r' := by
    intro isReturn
    simp [List.getLast?_append, isReturn] at noReturn
  have stillOneLine : '\n' ∉ tail ++ ['\r'] := by simp [oneLine]
  rw [List.append_assoc, claimsIn_append closed, claimsIn_append closed,
    claimsIn_of_oneLine stillOneLine, claimsIn_of_oneLine oneLine,
    claimOf, claimOf, dropReturn_append_return,
    dropReturn_of_getLast?_ne tailNoReturn]

/-- A line end at the end changes nothing. -/
theorem claimsIn_append_lineEnd {text ending : List Char}
    (isEnding : ending ∈ lineEnds)
    (endsOnce : ∀ front back, text ++ ending = front ++ back →
      EndsOnce front) :
    claimsIn (text ++ ending) = claimsIn text := by
  rcases List.mem_pair.mp isEnding with rfl | rfl
  · exact claimsIn_append_feed (endsOnce text ['\n'] rfl)
  · have marked : text ++ ['\r', '\n'] = (text ++ ['\r']) ++ ['\n'] := by
      simp
    have onlyReturn : EndsOnce (text ++ ['\r']) :=
      endsOnce (text ++ ['\r']) ['\n'] marked
    have noReturn : text.getLast? ≠ some '\r' := by
      intro another
      rcases List.getLast?_eq_some_iff.mp another with ⟨start, rfl⟩
      exact onlyReturn ⟨start, by simp⟩
    rw [marked, claimsIn_append_feed onlyReturn,
      claimsIn_append_return noReturn]

/-! ## All line ends -/

section Respelled

variable {text other : List Char} (respelled : Respelled text other)
  (noReturn : '\r' ∉ text)

include respelled noReturn

theorem claimsIn_respelled : claimsIn other = claimsIn text := by
  rw [claimsIn, respelled.lines_eq noReturn, claimsIn]

theorem endsOnce_of_respelled {front back : List Char}
    (split : other = front ++ back) : EndsOnce front := by
  rintro ⟨start, rfl⟩
  have double : other = start ++ '\r' :: '\r' :: back := by simp [split]
  have feed := respelled.head?_of_return noReturn double
  simp at feed

theorem claimsIn_respelled_append {ending : List Char}
    (isEnding : ending ∈ lineEnds) :
    claimsIn (other ++ ending) = claimsIn text := by
  have whole := respelled.append (respelled_of_mem_lineEnds isEnding)
  have wholeNoReturn : '\r' ∉ text ++ ['\n'] := by simp [noReturn]
  rw [claimsIn_append_lineEnd isEnding fun _ _ =>
      endsOnce_of_respelled whole wholeNoReturn,
    claimsIn_respelled respelled noReturn]

theorem claimsIn_of_respelled_append {shorter ending : List Char}
    (isEnding : ending ∈ lineEnds) (split : other = shorter ++ ending) :
    claimsIn shorter = claimsIn text := by
  rw [← claimsIn_respelled respelled noReturn, split,
    claimsIn_append_lineEnd isEnding fun _ _ equal =>
      endsOnce_of_respelled respelled noReturn (split.trans equal)]

end Respelled

/-! ## The listing as a whole -/

theorem read_eq_of_claimsIn_eq {left right : String}
    (same : claimsIn left.toList = claimsIn right.toList) :
    read left = read right := by
  rw [read_eq, read_eq, same]

/--
Behind a line feed a listing goes on as if it began there, and a line that
states no claim can be put in front of any line.  In a text without carriage
returns, each line feed may get one in front, and the last line may have its
end or lack it.
-/
theorem read_is_compositional :
    (∀ front back : String, IsClosed front.toList →
      (read (front ++ back)).claims =
        (read front).claims ++ (read back).claims) ∧
    (∀ front line back : String, IsClosed front.toList → Noise line →
      read (front ++ line ++ "\n" ++ back) = read (front ++ back)) ∧
    ∀ text other : String, '\r' ∉ text.toList →
      Respelled text.toList other.toList →
      read other = read text ∧
      (∀ ending : String, ending.toList ∈ lineEnds →
        read (other ++ ending) = read text) ∧
      ∀ shorter ending : String, ending.toList ∈ lineEnds →
        other = shorter ++ ending → read shorter = read text := by
  refine ⟨?_, ?_, ?_⟩
  · intro front back closed
    rw [read_eq, read_eq, read_eq, String.toList_append,
      claimsIn_append closed]
  · intro front line back closed noise
    apply read_eq_of_claimsIn_eq
    have spelled : (front ++ line ++ "\n" ++ back).toList =
        front.toList ++ (line.toList ++ '\n' :: back.toList) := by simp
    rw [spelled, String.toList_append, claimsIn_append closed,
      claimsIn_append closed, claimsIn_noise noise]
  · intro text other noReturn respelled
    refine ⟨?_, ?_, ?_⟩
    · exact read_eq_of_claimsIn_eq (claimsIn_respelled respelled noReturn)
    · intro ending isEnding
      apply read_eq_of_claimsIn_eq
      rw [String.toList_append]
      exact claimsIn_respelled_append respelled noReturn isEnding
    · rintro shorter ending isEnding rfl
      apply read_eq_of_claimsIn_eq
      rw [String.toList_append] at respelled
      exact claimsIn_of_respelled_append respelled noReturn isEnding rfl

/-- A remark between two claims, and three ways to end their lines. -/
theorem read_of_captured_output :
    IsClosed "MD5(a)= 00\n".toList ∧ Noise "copying b" ∧
    Respelled "MD5(a)= 00\nMD5(b)= ff".toList
      "MD5(a)= 00\r\nMD5(b)= ff".toList ∧
    read ("MD5(a)= 00\n" ++ "copying b" ++ "\n" ++ "MD5(b)= ff") =
      read ("MD5(a)= 00\n" ++ "MD5(b)= ff") ∧
    read ("MD5(a)= 00\r\nMD5(b)= ff" ++ "\r\n") =
      read "MD5(a)= 00\nMD5(b)= ff" ∧
    (read "MD5(a)= 00\nMD5(b)= ff").claims =
      [⟨"MD5", "a", "00"⟩, ⟨"MD5", "b", "ff"⟩] := by
  have closed : IsClosed "MD5(a)= 00\n".toList := by decide +kernel
  have noise : Noise "copying b" :=
    ⟨by decide +kernel, by decide +kernel, by decide +kernel⟩
  have respelled : Respelled "MD5(a)= 00\nMD5(b)= ff".toList
      "MD5(a)= 00\r\nMD5(b)= ff".toList := by
    have marked := (Respelled.refl "MD5(a)= 00".toList).append
      (.mark (.refl "MD5(b)= ff".toList))
    simpa using marked
  rcases read_is_compositional with ⟨-, skip, ends⟩
  rcases ends _ _ (by decide +kernel) respelled with ⟨-, added, -⟩
  exact ⟨closed, noise, respelled, skip _ _ "MD5(b)= ff" closed noise,
    added "\r\n" (by decide +kernel), by decide +kernel⟩

/-- Two returns at the end of a line are dropped only if it is closed. -/
example : read "MD5(a)= 00\r\r" ≠ read "MD5(a)= 00\r\r\n" := by
  decide +kernel

end MediaHash.Listing
