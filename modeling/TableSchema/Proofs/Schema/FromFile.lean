import TableSchema.Proofs.Text.Lines
import TableSchema.Proofs.Text.WellFormed
import TableSchema.Schema.File

namespace TableSchema

open TableSchema.Text

theorem Encoding.decodeFile_encode (text : List Char) :
    decodeFile .utf8 (Utf8.encode text) = .ok text := by
  simp only [decodeFile, decode, decodeUtf8, Utf8.decode_encode]
  rfl

namespace Schema

theorem linesOf_unifyLineEnds (text : List Char) : linesOf (unifyLineEnds text) = linesOf text := by
  rw [linesOf, linesOf, dropByteOrderMark_unifyLineEnds, splitLines_unifyLineEnds]

-- How the lines of a text end makes no difference to what it is read as, nor to the
-- places that are reported, nor to the steps that lead there.
theorem parse_unifyLineEnds (text : String) :
    parse (String.ofList (unifyLineEnds text.toList)) = parse text := by
  rw [parse, parse, String.toList_ofList, linesOf_unifyLineEnds]

theorem textOfBytes_encode (decoders : String → Encoding.Decoder) (text : String) :
    textOfBytes decoders (Utf8.encode text.toList) defaultEncoding =
      .ok (String.ofList (unifyLineEnds text.toList)) := by
  have hcharset : Encoding.Charset.ofName? defaultEncoding = some .utf8 := by decide +kernel
  simp only [textOfBytes, Encoding.Codec.ofName?_eq_charset_iff.mpr hcharset,
    Encoding.decodeFile_encode]
  rfl

-- A file with the bytes of a text is the schema that the text is, or fails as the text
-- does: with the same diagnostics at the same places.
theorem ofFile_eq_parse {files : FileTree} {path text : String}
    (h : (Location.ofText path).read files = .ok (Utf8.encode text.toList)) :
    ofFile files path defaultEncoding = (parse text).result.mapError .unparsed := by
  have hfile : ofFile files path defaultEncoding =
      ofBytes files.decoders (Utf8.encode text.toList) defaultEncoding := by
    rw [ofFile, h]
    rfl
  have hbytes : ofBytes files.decoders (Utf8.encode text.toList) defaultEncoding =
      (parse (String.ofList (unifyLineEnds text.toList))).result.mapError FileFault.unparsed := by
    rw [ofBytes, textOfBytes_encode]
    rfl
  rw [hfile, hbytes, parse_unifyLineEnds]

-- A byte order mark in front and another one that is text, and lines that end in
-- different ways.
def mixedText : String :=
  "\uFEFF@TotalColumns 1\x0B\n\r\r\n\u0085\uFEFFA:\u2028\x1C"

def mixedFiles : FileTree where
  entries := [(["schemas"], .directory), (["schemas", "mixed"], .file (Utf8.encode mixedText.toList))]
  workingDirectory := ["schemas"]

theorem ofFile_eq_parse_of_mixedFiles :
    (Location.ofText "mixed").read mixedFiles = .ok (Utf8.encode mixedText.toList) ∧
      ofFile mixedFiles "mixed" defaultEncoding =
        .error (.unparsed (.syntaxError { cause := .badDefinition, line := 6, column := 1 })) := by
  have hread : (Location.ofText "mixed").read mixedFiles = .ok (Utf8.encode mixedText.toList) :=
    rfl
  have hparse : (parse mixedText).result =
      .error (.syntaxError { cause := .badDefinition, line := 6, column := 1 }) := by
    cbv
  refine ⟨hread, ?_⟩
  rw [ofFile_eq_parse hread, hparse]
  rfl

end Schema

end TableSchema
