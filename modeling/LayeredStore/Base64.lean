import LayeredStore.Bytes

/-!
# `LayeredStore.Base64`: Base64 text without padding

The standard alphabet of RFC 4648, three bytes to four characters; a
last group of one or two bytes gives two or three characters and no
`=`.

* `encode` is the text of a byte string.
* `shortId` is its first seven characters, the form in which digests
  are shown to people.
-/

set_option autoImplicit false

namespace LayeredStore.Base64

/-- The character of a six-bit number. -/
def digit (n : Nat) : Char :=
  if n < 26 then Char.ofNat (n + 65)
  else if n < 52 then Char.ofNat (n - 26 + 97)
  else if n < 62 then Char.ofNat (n - 52 + 48)
  else if n = 62 then '+'
  else '/'

/-- The Base64 characters of a byte string. -/
def encode : Bytes → List Char
  | [] => []
  | [a] =>
    let n := a.toNat * 16
    [digit (n / 64), digit (n % 64)]
  | [a, b] =>
    let n := (a.toNat * 256 + b.toNat) * 4
    [digit (n / 4096), digit (n / 64 % 64), digit (n % 64)]
  | a :: b :: c :: rest =>
    let n := (a.toNat * 256 + b.toNat) * 256 + c.toNat
    digit (n / 262144) :: digit (n / 4096 % 64) :: digit (n / 64 % 64) :: digit (n % 64) ::
      encode rest

/-- The first seven characters of the Base64 text, or all of them if
there are fewer. -/
def shortId (bytes : Bytes) : String := String.ofList ((encode bytes).take 7)

end LayeredStore.Base64
