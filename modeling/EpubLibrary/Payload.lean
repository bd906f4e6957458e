import EpubLibrary.Zstd.Writer
import EpubLibrary.Text.Utf8

namespace EpubLibrary

/-- Why no data can be written at a level. -/
inductive LevelError where
  /-- above the greatest level of the codec -/
  | tooHigh
  /-- above or below what 32 bits hold -/
  | above32
  | below32
  /-- beyond what 64 bits hold -/
  | beyond64
  deriving DecidableEq

/-- Why a payload cannot be read. -/
inductive PayloadError where
  | empty
  | unknownCodec (codec : UInt8)
  | corrupt
  | notText
  deriving DecidableEq

namespace Payload

/-- The codec that writes Zstandard frames. -/
def zstdCodec : UInt8 := 0x01

def defaultLevel : Int := 8

def maxLevel : Int := 22

def checkLevel (level : Int) : Except LevelError Unit :=
  if level < -0x8000000000000000 ∨ 0x8000000000000000 ≤ level then .error .beyond64
  else if 0x80000000 ≤ level then .error .above32
  else if level < -0x80000000 then .error .below32
  else if maxLevel < level then .error .tooHigh
  else .ok ()

/-- The payload of data. The level chooses an effort, which shows nowhere in what is read back. -/
def compress (data : Bytes) (level : Int) : Except LevelError Bytes := do
  checkLevel level
  pure (zstdCodec :: Zstd.Frame.write data)

/-- The data of a payload; what follows its frame is not looked at. -/
def decompress : Bytes → Except PayloadError Bytes
  | [] => .error .empty
  | codec :: frame =>
    if codec ≠ zstdCodec then .error (.unknownCodec codec)
    else
      match Zstd.Frame.read? frame with
      | some data => .ok data
      | none => .error .corrupt

/-- The text of a payload. -/
def decompressText (payload : Bytes) : Except PayloadError String := do
  let data ← decompress payload
  match Text.Utf8.decode? data with
  | some text => pure (String.ofList text)
  | none => throw .notText

end Payload

def LevelError.message : LevelError → String
  | .tooHigh => "level must be less than 23"
  | .above32 => "signed integer is greater than maximum"
  | .below32 => "signed integer is less than minimum"
  | .beyond64 => "Python int too large to convert to C long"

def PayloadError.message : PayloadError → String
  | .empty => "empty payload"
  | .unknownCodec codec => "unknown codec 0x" ++ String.ofList (Bytes.hexByte codec)
  | .corrupt => "corrupt zstd payload: ..."
  | .notText => "payload is not UTF-8: ..."

end EpubLibrary
