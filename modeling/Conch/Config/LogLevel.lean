import Conch.Config.Setting
/-! Log levels: a setting's text is looked up, in upper case, among the names the logging library
exports; integers, truth values and `None` are levels as they are. -/
namespace Conch.LogLevel

/-- Why a setting gives no level: a text that names no level, or a value of a kind that is no
level; each carries the offending value as the message shows it. -/
inductive Fault where
  | unknown (shown : String)
  | notALevel (shown : String)
  deriving Repr, DecidableEq

def Fault.message : Fault → String
  | .unknown s => "Unknown level: " ++ s
  | .notALevel s => "Level not an integer or a valid string: " ++ s

/-- The upper-case form of a character when it is all ASCII: ASCII letters raised, and the sharp s,
the dotless i, the long s and the Latin ligatures made ASCII letters; other characters have none. -/
def asciiUpper? (c : Char) : Option String :=
  if c.toNat < 128 then some (String.ofList [c.toUpper])
  else match c.toNat with
    | 0xDF => some "SS"
    | 0x131 => some "I"
    | 0x17F => some "S"
    | 0xFB00 => some "FF"
    | 0xFB01 => some "FI"
    | 0xFB02 => some "FL"
    | 0xFB03 => some "FFI"
    | 0xFB04 => some "FFL"
    | 0xFB05 => some "ST"
    | 0xFB06 => some "ST"
    | _ => none

def upperName? (s : String) : Option String :=
  (s.toList.mapM asciiUpper?).map String.join

/-- What an exported upper-case name stands for. -/
inductive Export where
  | level
  | text (shown : String)
  | other (shown : String)
  deriving Repr, DecidableEq

def exports : List (String × Export) :=
  [("BASIC_FORMAT", .text "'%(levelname)s:%(name)s:%(message)s'"),
   ("CRITICAL", .level), ("DEBUG", .level), ("ERROR", .level), ("FATAL", .level),
   ("INFO", .level), ("NOTSET", .level), ("WARN", .level), ("WARNING", .level),
   ("_STYLES", .other ("\x7b'%': (<class 'logging.PercentStyle'>, " ++
      "'%(levelname)s:%(name)s:%(message)s'), '\x7b': (<class 'logging.StrFormatStyle'>, " ++
      "'\x7blevelname\x7d:\x7bname\x7d:\x7bmessage\x7d'), '$': " ++
      "(<class 'logging.StringTemplateStyle'>, '$\x7blevelname\x7d:$\x7bname\x7d:$\x7bmessage\x7d')\x7d"))]

def check : Setting → Except Fault Unit
  | .text s =>
    match (upperName? s).bind fun n => exports.lookup n with
    | some (.text shown) => .error (.unknown shown)
    | some (.other shown) => .error (.notALevel shown)
    | _ => .ok ()
  | .none | .bool _ | .int _ => .ok ()
  | v => .error (.notALevel v.quoted)

example : check (.text "warning") = .ok () := rfl

example : check (.text "ba\u017Fic_format") = .error (.unknown "'%(levelname)s:%(name)s:%(message)s'") :=
  rfl

example : check (.list []) = .error (.notALevel "[]") := rfl

end Conch.LogLevel
