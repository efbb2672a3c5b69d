import DiodeClient.Go.Strings

/-!
This module models `crypto.go`: the import of secp256k1 private keys from their raw scalar and
from their ASN.1 encodings, the reading and writing of public keys, and the address of a public
key. The multiplication of the curve's base point, the ASN.1 decoder and the Keccak hash are
outside the sources and enter as parameters; around the multiplication, secp256k1's
`ScalarBaseMult` pads a short scalar and panics on a long one, and that much is modelled.
-/

namespace Crypto

open Go Rlp

/-- `ecPrivKeyVersion`. -/
def ecPrivKeyVersion : Int := 1

/-- `secp256k1N`, the order of the base point of secp256k1, as `SetString` reads its digits. -/
def secp256k1N : Nat := 0xfffffffffffffffffffffffffffffffebaaedce6af48a03bbfd25e8cd0364141

/-- `errInvalidPubkey`. -/
def errInvalidPubkey : String := "invalid secp256k1 public key"

/-- The curve `S256()` returns, the `secp256k1.BitCurve` outside the sources: its size in bits,
the multiplication of its base point by a scalar of exactly 32 bytes, which `ScalarMult` leaves
to the C library and which gives `nil` coordinates when it fails, and the point encodings
`elliptic.Marshal` and `elliptic.Unmarshal`. A coordinate that is `nil` is `none`. -/
structure Curve where
  bitSize : Nat
  mulBase : Bytes → Option Nat × Option Nat
  marshal : Nat → Nat → Bytes
  unmarshal : Bytes → Option Nat × Option Nat

/-- `BitCurve.ScalarBaseMult`, which is `ScalarMult` of the base point: a scalar over 32 bytes
panics, and a shorter one is padded with zeros in front to 32 bytes. -/
def Curve.scalarBaseMult (curve : Curve) (k : Bytes) : Except Panic (Option Nat × Option Nat) :=
  if 32 < k.length then .error (.call "can't handle scalars > 256 bits")
  else .ok (curve.mulBase (List.replicate (32 - k.length) 0 ++ k))

/-- The fields of `ECPrivateKey` the code reads. -/
structure ECPrivateKey where
  version : Int
  privateKey : Bytes

/-- `asn1.Unmarshal` into the three key structs, outside the sources. Of `ECPEMPrivateKey` the
code reads `KeyData`, of `ECPrivateKey` the version and the key, and of `ECPublicKey` the bytes
of the public key's bit string. -/
structure Asn1 where
  unmarshalECPEMPrivateKey : Bytes → Except String Bytes
  unmarshalECPrivateKey : Bytes → Except String ECPrivateKey
  unmarshalECPublicKey : Bytes → Except String Bytes

/-- An `ecdsa.PublicKey` on `S256()`. -/
structure PublicKey where
  x : Option Nat
  y : Option Nat

/-- An `ecdsa.PrivateKey` on `S256()`. -/
structure PrivateKey where
  d : Nat
  publicKey : PublicKey

/-- `toECDSA`: with `strict` the key must have as many bits as the curve; its value `D` must be
below `N` and positive, and the base-point multiplication must give a point. The errors are
returned; a panic of `ScalarBaseMult` is the outer error. -/
def toECDSA (curve : Curve) (d : Bytes) (strict : Bool) : Except Panic (Except String PrivateKey) :=
  if strict && 8 * d.length != curve.bitSize then
    pure (.error ("invalid length, need " ++ toString curve.bitSize ++ " bits"))
  else
    let D := beValue d
    if D ≥ secp256k1N then pure (.error "invalid private key, >=N")
    else if (D : Int).sign ≤ 0 then pure (.error "invalid private key, zero or negative")
    else
      (curve.scalarBaseMult d).map fun
        | (none, _) => .error "invalid private key"
        | (some x, y) => .ok ⟨D, ⟨some x, y⟩⟩

/-- `ToECDSA`, the exported form of `toECDSA`, with the length enforced. -/
def ToECDSA (curve : Curve) (d : Bytes) : Except Panic (Except String PrivateKey) :=
  toECDSA curve d true

/-- `ToECDSAUnsafe`: `toECDSA` without the length check, its error dropped. -/
def toECDSAUnsafe (curve : Curve) (d : Bytes) : Except Panic (Option PrivateKey) :=
  (toECDSA curve d false).map Except.toOption

/-- `DerToECDSA`. -/
def derToECDSA (curve : Curve) (asn1 : Asn1) (derD : Bytes) :
    Except Panic (Except String PrivateKey) :=
  match asn1.unmarshalECPrivateKey derD with
  | .error err => pure (.error ("x509: failed to parse EC private key: " ++ err))
  | .ok privKey =>
    if privKey.version ≠ ecPrivKeyVersion then
      pure (.error ("x509: unknown EC private key version " ++ toString privKey.version))
    else toECDSA curve privKey.privateKey true

/-- `PemToECDSA`: neither the key type nor the curve name is checked. -/
def pemToECDSA (curve : Curve) (asn1 : Asn1) (pem : Bytes) :
    Except Panic (Except String PrivateKey) :=
  match asn1.unmarshalECPEMPrivateKey pem with
  | .error err => pure (.error err)
  | .ok keyData => derToECDSA curve asn1 keyData

/-- `DerToPublicKey`: on an error it returns the one-byte slice it allocated, with the error. -/
def derToPublicKey (asn1 : Asn1) (derPubKey : Bytes) : Bytes × Option String :=
  match asn1.unmarshalECPublicKey derPubKey with
  | .error err => ([0], some err)
  | .ok publicKey => (publicKey, none)

/-- `UnmarshalPubkey`. -/
def unmarshalPubkey (curve : Curve) (pub : Bytes) : Except String PublicKey :=
  match curve.unmarshal pub with
  | (none, _) => .error errInvalidPubkey
  | (x, y) => .ok ⟨x, y⟩

/-- `FromECDSAPub`: a `nil` key, or one with a `nil` coordinate, gives `nil`. -/
def fromECDSAPub (curve : Curve) : Option PublicKey → Bytes
  | some ⟨some x, some y⟩ => curve.marshal x y
  | _ => []

/-- `PubkeyToAddress`: the slice expressions `pubkey[1:]` and `hashPubkey[12:]` panic on shorter
slices; the error it returns is always `nil`. -/
def pubkeyToAddress (keccak256 : Bytes → Bytes) (pubkey : Bytes) : Except Panic Bytes :=
  if pubkey.length < 1 then .error .sliceBoundsOutOfRange
  else
    let hashPubkey := keccak256 (pubkey.drop 1)
    if hashPubkey.length < 12 then .error .sliceBoundsOutOfRange
    else .ok (hashPubkey.drop 12)

/-- `zeroBytes`: the loop `for i := range bytes { bytes[i] = 0 }`. -/
def zeroBytes (bytes : Bytes) : Bytes :=
  (List.range bytes.length).foldl (fun b i => b.set i 0) bytes

end Crypto
