import Uncomment.Proofs.Convert.Idempotence
import Uncomment.Proofs.Convert.Substitution
import Uncomment.Proofs.Text.Latin1

/-!
# The encoding does not matter

Bytes that are UTF-8 may be converted as Latin-1 just as well: the same bytes are removed. What is
left is the same text, misread in the same way. Only the lengths of the comments differ, as they are
counted in bytes of the text that was read, where each byte from 0x80 on takes two.

Results:
* `text_convert_misread`: a conversion does the same to a text that is misread.
* `convert_latin1_of_utf8`: the two conversions of a row of bytes.
-/

namespace Uncomment.TextEncoding

open LineEnding Text

theorem text_convert_misread (text : String) (options : ConvertOptions) :
    (convert (substitute misread text) options).text =
      substitute misread (convert text options).text := by
  have hstrip := strip_substitute ordinarySubst_misread text
  obtain ⟨normalize⟩ := options
  cases normalize with
  | false => exact hstrip
  | true =>
    rw [text_convert_normalized, text_convert_normalized, hstrip, toList_substitute,
      (keepsLines_misread.collapse_flatMap (strip text).toList).1, ← String.toList_inj,
      toList_substitute, String.toList_ofList, String.toList_ofList]

theorem crlfCollapsed_convert_misread (text : String) (options : ConvertOptions) :
    (convert (substitute misread text) options).stats.crlfCollapsed =
      (convert text options).stats.crlfCollapsed := by
  rw [crlfCollapsed_convert, crlfCollapsed_convert, strip_substitute ordinarySubst_misread,
    toList_substitute, (keepsLines_misread.collapse_flatMap (strip text).toList).2]

/-- Bytes that are UTF-8 are converted to the same bytes whether they are read as UTF-8 or as
    Latin-1: the text from the one is what the text from the other is read as in Latin-1. As many
    comments are removed and as many pairs collapsed; read as Latin-1, each byte from 0x80 on in a
    comment adds one to the bytes of comments. -/
theorem convert_latin1_of_utf8 {bs : Bytes} {asUtf8 : Derived} (h : decode .utf8 bs = .ok asUtf8)
    (options : ConvertOptions) :
    ∃ asLatin1 left : Derived,
      decode .latin1 bs = .ok asLatin1 ∧
      decode .latin1 (bytes (convert asUtf8.text options).text) = .ok left ∧
      (convert asLatin1.text options).text = left.text ∧
      (convert asLatin1.text options).stats.commentsRemoved =
        (convert asUtf8.text options).stats.commentsRemoved ∧
      (convert asLatin1.text options).stats.crlfCollapsed =
        (convert asUtf8.text options).stats.crlfCollapsed ∧
      (convert asLatin1.text options).stats.commentBytes =
        (convert asUtf8.text options).stats.commentBytes +
          ((comments asUtf8.text).map fun s =>
            (bytes (s.text asUtf8.text)).countP (0x80 ≤ ·)).sum := by
  obtain ⟨rfl, -⟩ := bytes_of_decode_utf8 h
  have hread := ofList_map_latin1Char_bytes asUtf8.text
  have hleft := ofList_map_latin1Char_bytes (convert asUtf8.text options).text
  refine ⟨_, _, rfl, rfl, ?_, ?_, ?_, ?_⟩
  · simp only [hread, hleft]
    exact text_convert_misread asUtf8.text options
  · simp only [hread]
    exact commentsRemoved_substitute ordinarySubst_misread asUtf8.text options
  · simp only [hread]
    exact crlfCollapsed_convert_misread asUtf8.text options
  · simp only [hread]
    exact commentBytes_substitute ordinarySubst_misread utf8ByteSize_substitute_misread
      asUtf8.text options

/-- An accent in a literal, where it is escaped, and in a comment, where it makes up two bytes from
    0x80 on. -/
theorem convert_latin1_of_utf8_accents :
    decode .utf8 (bytes "'\\é'/*é*/\r\n") = .ok ⟨"'\\é'/*é*/\r\n", true⟩ ∧
      ∃ asLatin1 left : Derived,
        decode .latin1 (bytes "'\\é'/*é*/\r\n") = .ok asLatin1 ∧
        decode .latin1 (bytes "'\\é'\n") = .ok left ∧
        (convert asLatin1.text {}).text = left.text ∧
        (convert asLatin1.text {}).stats.commentsRemoved = 1 ∧
        (convert asLatin1.text {}).stats.crlfCollapsed = 1 ∧
        (convert asLatin1.text {}).stats.commentBytes = 6 + 2 := by
  have h := decode_utf8_bytes "'\\é'/*é*/\r\n"
  have htext : (convert "'\\é'/*é*/\r\n" {}).text = "'\\é'\n" := by decide +kernel
  obtain ⟨asLatin1, left, hread, hleft, hconvert, hremoved, hcollapsed, hbytes⟩ :=
    convert_latin1_of_utf8 h {}
  refine ⟨h, asLatin1, left, hread, ?_, hconvert, hremoved.trans ?_, hcollapsed.trans ?_,
    hbytes.trans ?_⟩
  · rw [← htext]
    exact hleft
  · decide +kernel
  · decide +kernel
  · decide +kernel

end Uncomment.TextEncoding
