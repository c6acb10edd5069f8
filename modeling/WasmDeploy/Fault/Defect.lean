import WasmDeploy.FileError
import WasmDeploy.Receipt

/-!
# Defects

This file gives the ways an operation ends that are no failure of a deployment: a value of a kind that the
operation is not made for, a number out of reach, a malformed URL, an answer that is nested too deep, a
transaction that cannot be encoded, and whatever a client of the caller's own raises.
-/

namespace WasmDeploy

/-- What is wrong with the authority of a URL. -/
inductive UrlDefect where
  | brackets
  | address (host : String)
  | futureAddress
  | decimalInBrackets
  | lookalike (authority : String)
  | nonAscii (byte : UInt8) (position : Nat)
deriving DecidableEq, Repr

/-- The message of a defect of a URL. -/
def UrlDefect.message : UrlDefect → String
  | .brackets => "Invalid IPv6 URL"
  | .address host => s!"{Text.quoted host} does not appear to be an IPv4 or IPv6 address"
  | .futureAddress => "IPvFuture address is invalid"
  | .decimalInBrackets => "An IPv4 address cannot be in brackets"
  | .lookalike authority =>
      s!"netloc '{authority}' contains invalid characters under NFKC normalization"
  | .nonAscii byte position =>
      s!"'ascii' codec can't decode byte 0x{String.ofList (Text.hexPadded 2 byte.toNat)} " ++
        s!"in position {position}: ordinal not in range(128)"

/-- The ways an operation ends that no stage of a deployment foresees. -/
inductive Defect where
  | incomparable (operator left right : String)
  | notNumber (kind : String)
  | infinityNotWhole
  | nanNotWhole
  | tooManyDigits
  | beyondFloat
  | unsized (kind : String)
  | unhashable (kind : String)
  | notPath (kind : String)
  | pathOfBytes
  | pathWithNul
  | fileError (error : FileError) (path : String)
  | lacksOperation (kind operation : String)
  | malformedUrl (defect : UrlDefect)
  /-- An answer opens more containers of a kind than can be read. -/
  | nestedTooDeep (container : String)
  | invalidFields (fields : List (String × Datum))
  | unreadableField (name : String) (value : Datum)
  | negativeField (name : String)
  | encodingTooLong
  | notTerminal (state : TrackingState)
  | loggerNameNotText
  | levelUnknown (name : Text)
  | levelNotInteger (value : Datum)
  /-- A deadline has passed, but the failure that says so cannot be put into words. -/
  | overdue (cause : Defect)
  /-- A defect of the caller's own client, known by its name and its message. -/
  | foreign (name text : String)

/-- The message of a defect. -/
def Defect.message : Defect → String
  | .incomparable operator left right =>
      s!"'{operator}' not supported between instances of '{left}' and '{right}'"
  | .notNumber kind => s!"%d format: a real number is required, not {kind}"
  | .infinityNotWhole => "cannot convert float infinity to integer"
  | .nanNotWhole => "cannot convert float NaN to integer"
  | .tooManyDigits =>
      "Exceeds the limit (4300 digits) for integer string conversion; " ++
        "use sys.set_int_max_str_digits() to increase the limit"
  | .beyondFloat => "int too large to convert to float"
  | .unsized kind => s!"object of type '{kind}' has no len()"
  | .unhashable kind => s!"unhashable type: '{kind}'"
  | .notPath kind => s!"expected str, bytes or os.PathLike object, not {kind}"
  | .pathOfBytes =>
      "argument should be a str object or an os.PathLike object returning str, not <class 'bytes'>"
  | .pathWithNul => "embedded null byte"
  | .fileError error path => error.message path
  | .lacksOperation kind operation => s!"'{kind}' object has no attribute '{operation}'"
  | .malformedUrl defect => defect.message
  | .nestedTooDeep container =>
      s!"maximum recursion depth exceeded while decoding a JSON {container} from a unicode string"
  | .invalidFields fields =>
      let members := fields.map fun (name, value) => (Text.ofString name, value)
      s!"Transaction had invalid fields: {(Datum.object members).quoted}"
  | .unreadableField name value =>
      s!"Could not format invalid value {value.quoted} as field {Text.quoted name}"
  | .negativeField name =>
      s!"Serialization failed because of field {name} (\"Cannot serialize negative integers\")"
  | .encodingTooLong => "Length greater than 256**8"
  | .notTerminal state => s!"Not a terminal tracking state: {state.label}"
  | .loggerNameNotText => "A logger name must be a string"
  | .levelUnknown name => s!"Unknown level: {Text.quoted name}"
  | .levelNotInteger value => s!"Level not an integer or a valid string: {value.quoted}"
  | .overdue cause => cause.message
  | .foreign _ text => text

end WasmDeploy
