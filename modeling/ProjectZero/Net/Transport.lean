import ProjectZero.Net.Tables

/-! # Transport headers

UDP and TCP headers with the checksum over the pseudo-header. The sums are words of 32 bits; a
segment has at most 1500 bytes, so they do not wrap. -/

namespace ProjectZero.Net.Transport

open Lib.Layout Net.Tables

def udpHeaderLen : ℕ := 8
def tcpHeaderLen : ℕ := 20
def ethernetHeaderLen : ℕ := 14
def ipv4HeaderLen : ℕ := 20

/-- The buffer that `send_socket` writes a segment into. -/
def segmentBufferLen : ℕ := 1500

def tcpPsh : BitVec 8 := 0x08
def tcpAck : BitVec 8 := 0x10
def tcpDefaultWindow : BitVec 16 := 2048

/-! ### Bytes -/

/-- `to_be_bytes` of 16 bits. -/
def be16 (w : BitVec 16) : List Byte := [(w >>> 8).setWidth 8, w.setWidth 8]

/-- `to_be_bytes` of 32 bits. -/
def be32 (w : BitVec 32) : List Byte := be16 ((w >>> 16).setWidth 16) ++ be16 (w.setWidth 16)

/-- `u16::from_be_bytes`. -/
def word (hi lo : Byte) : BitVec 16 := hi ++ lo

lemma word_be16 (w : BitVec 16) : word ((w >>> 8).setWidth 8) (w.setWidth 8) = w := by
  apply BitVec.eq_of_getLsbD_eq
  intro i hi
  unfold word
  rw [BitVec.getLsbD_append, BitVec.getLsbD_setWidth, BitVec.getLsbD_setWidth,
    BitVec.getLsbD_ushiftRight]
  by_cases h : i < 8
  · simp [h]
  have h8 : i - 8 < 8 := by omega
  have hadd : 8 + (i - 8) = i := by omega
  simp [h, h8, hadd]

variable (segment : List Byte)

/-- The word at the offset `i` of the segment. -/
def wordAt (i : ℕ) : BitVec 16 :=
  word (segment.getD i 0) (segment.getD (i + 1) 0)

/-! ### Checksum -/

/-- The sum of the words of the bytes, a last single byte filled up with a zero. -/
def sumWords : BitVec 32 → List Byte → BitVec 32
  | sum, hi :: lo :: rest => sumWords (sum + (word hi lo).setWidth 32) rest
  | sum, [hi] => sum + (word hi 0).setWidth 32
  | sum, [] => sum

/-- `while (sum >> 16) != 0`, at most as often as the first argument says. -/
def foldCarries : ℕ → BitVec 32 → BitVec 32
  | 0, sum => sum
  | k + 1, sum =>
    if sum >>> 16 ≠ 0 then foldCarries k ((sum &&& 0xFFFF#32) + (sum >>> 16)) else sum

variable (src dst : Ip)

def computeTransportChecksum (protocol : ℕ) (segment : List Byte) : BitVec 16 :=
  let sum : BitVec 32 := (src >>> 16) + (src &&& 0xFFFF#32) + (dst >>> 16) + (dst &&& 0xFFFF#32) +
    BitVec.ofNat 32 protocol + BitVec.ofNat 32 segment.length
  let res := ~~~((foldCarries 3 (sumWords sum segment)).setWidth 16)
  if res = 0 ∧ protocol = 17 then 0xFFFF else res

/-- The checksum of a UDP segment is never zero: zero is written as its complement. -/
lemma checksum_udp_ne_zero : computeTransportChecksum src dst 17 segment ≠ 0 := by
  unfold computeTransportChecksum
  dsimp only
  split
  · decide
  rename_i h
  exact fun hz => h ⟨hz, rfl⟩

/-! ### UDP -/

variable (srcPort dstPort : Port)

/-- The header with the given checksum. -/
def udpHeader (len : ℕ) (checksum : BitVec 16) : List Byte :=
  be16 srcPort ++ be16 dstPort ++ be16 (BitVec.ofNat 16 len) ++ be16 checksum

variable (payload : List Byte)

/-- The segment that `write_udp_header` leaves in the buffer. -/
def udpSegment : List Byte :=
  let len := udpHeaderLen + payload.length
  let checksum := computeTransportChecksum src dst 17 (udpHeader srcPort dstPort len 0 ++ payload)
  udpHeader srcPort dstPort len checksum ++ payload

@[simp] lemma udpHeader_length (len : ℕ) (checksum : BitVec 16) :
    (udpHeader srcPort dstPort len checksum).length = udpHeaderLen := rfl

lemma udpSegment_length :
    (udpSegment src dst srcPort dstPort payload).length = udpHeaderLen + payload.length := by
  unfold udpSegment
  rw [List.length_append, udpHeader_length]

def writeUdpHeader :
    Except SyscallError (List Byte) :=
  if segmentBufferLen < udpHeaderLen + payload.length then .error .messageTooLarge
  else .ok (udpSegment src dst srcPort dstPort payload)

/-- The ports and the payload of a segment. -/
def parseUdpHeader (src dst : Ip) : Option (Port × Port × List Byte) :=
  if segment.length < udpHeaderLen then none
  else
    let length := (wordAt segment 4).toNat
    let checksum := wordAt segment 6
    if length < udpHeaderLen ∨ segment.length < length then none
    else if checksum ≠ 0 ∧ src ≠ 0 ∧ dst ≠ 0 ∧
        computeTransportChecksum src dst 17 (segment.take length) ≠ 0 then none
    else some (wordAt segment 0, wordAt segment 2, (segment.take length).drop 8)

/-- **A UDP segment** is parsed as long as the receiver has no address to check it with: the checksum
over a segment that carries its own checksum is compared with a zero it never is. -/
lemma parseUdpHeader_udpSegment (a b : Ip) (p q : Port) {payload : List Byte}
    (hlen : udpHeaderLen + payload.length ≤ segmentBufferLen) (src dst : Ip) :
    parseUdpHeader (udpSegment a b p q payload) src dst =
      if src ≠ 0 ∧ dst ≠ 0 then none else some (p, q, payload) := by
  have hs : segmentBufferLen = 1500 := rfl
  have hu : udpHeaderLen = 8 := rfl
  have htotal := udpSegment_length a b p q payload
  have hport : wordAt (udpSegment a b p q payload) 0 = p := word_be16 p
  have hport' : wordAt (udpSegment a b p q payload) 2 = q := word_be16 q
  have hlength : (wordAt (udpSegment a b p q payload) 4).toNat = udpHeaderLen + payload.length := by
    have hw : wordAt (udpSegment a b p q payload) 4 =
        BitVec.ofNat 16 (udpHeaderLen + payload.length) := word_be16 _
    rw [hw, BitVec.toNat_ofNat]
    exact Nat.mod_eq_of_lt (by omega)
  have hsum : wordAt (udpSegment a b p q payload) 6 ≠ 0 := by
    have hw : wordAt (udpSegment a b p q payload) 6 = computeTransportChecksum a b 17
        (udpHeader p q (udpHeaderLen + payload.length) 0 ++ payload) := word_be16 _
    rw [hw]
    exact checksum_udp_ne_zero _ _ _
  have hdrop : (udpSegment a b p q payload).drop 8 = payload := rfl
  unfold parseUdpHeader
  rw [if_neg (by omega)]
  rw [hlength, hport, hport', if_neg (by omega), List.take_of_length_le (by omega), hdrop]
  by_cases hip : src ≠ 0 ∧ dst ≠ 0
  · rw [if_pos hip, if_pos ⟨hsum, hip.1, hip.2, checksum_udp_ne_zero _ _ _⟩]
  · rw [if_neg hip, if_neg fun h => hip ⟨h.2.1, h.2.2.1⟩]

/-! ### TCP -/

variable (seq ack : BitVec 32)

/-- The header with the given checksum. -/
def tcpHeader (flags : BitVec 8)
    (window checksum : BitVec 16) : List Byte :=
  be16 srcPort ++ be16 dstPort ++ be32 seq ++ be32 ack ++
    be16 ((5#16 <<< 12) ||| flags.setWidth 16) ++ be16 window ++ be16 checksum ++ be16 0

lemma tcpHeader_length (flags : BitVec 8) (window checksum : BitVec 16) :
    (tcpHeader srcPort dstPort seq ack flags window checksum).length = tcpHeaderLen := rfl

def writeTcpHeader (flags : BitVec 8)
    (window : BitVec 16) (payload : List Byte) : Except SyscallError (List Byte) :=
  if segmentBufferLen < tcpHeaderLen + payload.length then .error .messageTooLarge
  else
    let checksum := computeTransportChecksum src dst 6
      (tcpHeader srcPort dstPort seq ack flags window 0 ++ payload)
    .ok (tcpHeader srcPort dstPort seq ack flags window checksum ++ payload)

/-- The payload of a segment; the other fields of the header no caller reads. -/
def parseTcpHeader (src dst : Ip) : Option (List Byte) :=
  if segment.length < tcpHeaderLen then none
  else
    let headerLen := (wordAt segment 12 >>> 12).toNat * 4
    if headerLen < tcpHeaderLen ∨ segment.length < headerLen then none
    else if src ≠ 0 ∧ dst ≠ 0 ∧ computeTransportChecksum src dst 6 segment ≠ 0 then none
    else some (segment.drop headerLen)

end ProjectZero.Net.Transport
