import Vynkor.Wire

/-! Frames as bytes: building them, tagging them and writing their header. What the
wire crate, `prost` and the hash functions compute is a parameter. -/

namespace Vynkor

structure FragmentHeader where
  fragmentId : Nat
  sequence : Nat
  total : Nat
  streamId : Nat
  deriving DecidableEq, Repr

/-- What a kernel-built frame carries besides its payload: the target, and the trace
id and time of the envelope. -/
structure Stamp where
  target : String := "client"
  messageId : String := ""
  timestamp : Nat := 0

/-- Code outside this repository. -/
structure Codec where
  decode : Bytes → Option Envelope
  encode : Stamp → Envelope → Bytes
  crc32 : Bytes → BitVec 32
  targetAsStr : Bytes → Option String
  parseFragHeader : Bytes → Option FragmentHeader
  serializeHeader : Frame → Bytes
  computeTag : SessionKey → Bytes → Bytes → Bytes
  verifyTag : SessionKey → Bytes → Bytes → Bytes → Bool
  maxPayloadSize : Nat := 1048576

def fragHeaderSize : Nat := 10

def asU32 (count : Nat) : Nat := count % 4294967296

/-- Padded with NULs to the 32 bytes of the header field, truncated past them. -/
def targetBytes (target : String) : Bytes :=
  ((target.toList.flatMap String.utf8EncodeChar).take 32).rightpad 32 0

def Frame.bytes (frame : Frame) : Bytes := frame.payload.bytes

def Frame.hasFlag (frame : Frame) (flag : BitVec 16) : Bool := frame.flags &&& flag != 0

namespace Codec
variable (codec : Codec)

def retarget (frame : Frame) (target : String) : Frame :=
  { frame with target := codec.targetAsStr (targetBytes target), targetBytes := targetBytes target }

def buildFrame (target : String) (flags : BitVec 16) (bytes : Bytes) : Frame where
  flags := flags
  length := asU32 bytes.length
  target := codec.targetAsStr (targetBytes target)
  targetBytes := targetBytes target
  crc32 := codec.crc32 bytes
  payload := .ofBytes codec.decode bytes

def tagPresent (frame : Frame) : Bool := frame.hasFlag flagMacPresent && frame.mac.isSome

def verified (key : SessionKey) (frame : Frame) : Bool :=
  tagPresent frame && frame.mac.any fun tag => codec.verifyTag key (codec.serializeHeader frame) frame.bytes tag

/-- Tags a frame on its way out, once there is a key. -/
def tag (key : Option SessionKey) (frame : Frame) : Frame :=
  match key with
  | none => frame
  | some key =>
    let flagged := { frame with flags := frame.flags ||| flagMacPresent }
    { flagged with mac := some (codec.computeTag key (codec.serializeHeader flagged) flagged.bytes) }

end Codec

/-- `to_be_bytes` of an integer of `width` bytes. -/
def toBeBytes (width value : Nat) : Bytes :=
  (List.range width).reverse.map fun place => UInt8.ofNat (value >>> (8 * place))

/-- The header as `frame_to_bytes` lays it out. -/
def Frame.headerBytes (frame : Frame) : Bytes :=
  toBeBytes 2 frame.magic.toNat ++ toBeBytes 2 frame.flags.toNat ++ toBeBytes 4 frame.length ++ frame.targetBytes ++
    toBeBytes 4 frame.crc32.toNat

def frameToBytes (frame : Frame) : Bytes :=
  frame.headerBytes ++ frame.bytes ++ frame.mac.getD []

def fromBeBytes (bytes : Bytes) : Nat := bytes.foldl (fun value byte => 256 * value + byte.toNat) 0

/-- Headers as on the wire and ASCII targets; payloads are raw, and a tag is the nonce of
its key. -/
def sampleCodec : Codec where
  decode _ := none
  encode _ _ := []
  crc32 bytes := BitVec.ofNat 32 bytes.length
  targetAsStr bytes := some (String.ofList ((bytes.takeWhile (· != 0)).map fun byte => Char.ofNat byte.toNat))
  parseFragHeader bytes :=
    if bytes.length < fragHeaderSize then none
    else some ⟨fromBeBytes (bytes.take 2), fromBeBytes ((bytes.drop 2).take 2), fromBeBytes ((bytes.drop 4).take 2),
      fromBeBytes ((bytes.drop 6).take 4)⟩
  serializeHeader := Frame.headerBytes
  computeTag key _ _ := (key.nonce.take 32).rightpad 32 0
  verifyTag key _ _ tag := tag == (key.nonce.take 32).rightpad 32 0

end Vynkor
