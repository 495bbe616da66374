import TableSchema.Encoding.Decode
import TableSchema.Location
import TableSchema.Schema.Parser
import TableSchema.Text.Lines

namespace TableSchema.Schema

open TableSchema.Text

def defaultEncoding : String := "utf-8"

-- Why a file gives no schema: it cannot be read, it is no text in the codec, or its
-- text is no schema.
inductive FileFault
  | unread (fault : Location.ReadFault)
  | unknownEncoding (name : String)
  | notText (name : String)
  | undecoded (fault : Encoding.Fault)
  | unparsed (fault : ParseFault)
  deriving DecidableEq, Repr

def FileFault.message : FileFault → String
  | .unread fault => fault.message
  | .unknownEncoding name => Encoding.unknownText name
  | .notText name => Encoding.notTextText name
  | .undecoded fault => fault.message
  | .unparsed fault => fault.message

-- The text in some bytes. Every line of it ends in a line feed.
def textOfBytes (decoders : String → Encoding.Decoder) (bytes : List UInt8) (encoding : String) :
    Except FileFault String := do
  let text ← match Encoding.Codec.ofName? encoding with
    | none => .error (.unknownEncoding encoding)
    | some .binary => .error (.notText encoding)
    | some (.charset charset) => (Encoding.decodeFile charset bytes).mapError .undecoded
    | some (.other name) => ((decoders name).file bytes).mapError .undecoded
  return String.ofList (unifyLineEnds text)

def ofBytes (decoders : String → Encoding.Decoder) (bytes : List UInt8) (encoding : String) :
    Except FileFault Schema := do
  let text ← textOfBytes decoders bytes encoding
  (parse text).result.mapError .unparsed

-- The schema in a file. The file is opened before the codec is looked up.
def ofFile (files : FileTree) (path encoding : String) : Except FileFault Schema := do
  let bytes ← ((Location.ofText path).read files).mapError .unread
  ofBytes files.decoders bytes encoding

end TableSchema.Schema
