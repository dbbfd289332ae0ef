import Sastt.Domain.Transcript
import Sastt.Lib.Numerals

/-!
# The text of a transcript

A transcript is rendered line by line: when a segment starts and ends, who
speaks, and what is said. `render_transcript` writes the time as minutes and
seconds and an enrolled speaker with the id it is registered under.
-/

namespace Sastt

/-- A number with at least that many digits. -/
def zeroPadded (width n : ℕ) : String :=
  String.ofList ((toString n).toList.leftpad width '0')

theorem isDigit_of_mem_zeroPadded {width n : ℕ} {c : Char}
    (h : c ∈ (zeroPadded width n).toList) : c.isDigit = true := by
  rw [zeroPadded, String.toList_ofList, List.leftpad, List.mem_append] at h
  rcases h with h | h
  · rw [List.eq_of_mem_replicate h]
    decide
  · exact isDigit_of_mem_toString h

/-- `_format_timestamp`. -/
def formatTimestamp (ms : ℕ) : String :=
  zeroPadded 2 (ms / 60000) ++ ":" ++ zeroPadded 2 (ms % 60000 / 1000) ++ "."
    ++ zeroPadded 3 (ms % 60000 % 1000)

variable {R : Type} [Field R] [LinearOrder R]

/-- `render_segment`. -/
def renderSegment (segment : TranscriptSegment R) : String :=
  let who :=
    if segment.identityStatus = .enrolled then
      segment.speakerName.getD "None" ++ " [" ++ segment.registrySpeakerId.getD "None" ++ "]"
    else if segment.speakerLabel = "" then segment.sessionSpeakerId
    else segment.speakerLabel
  formatTimestamp segment.startMs ++ "–" ++ formatTimestamp segment.endMs ++ " — " ++ who ++ ": “"
    ++ segment.text ++ "”"

/-- `render_transcript`. -/
def renderTranscript (segments : List (TranscriptSegment R)) : String :=
  "\n".intercalate ((sortSegments segments).map renderSegment)

end Sastt
