import AccountInput.Text.Utf8
import AccountInput.Text.Wide

namespace AccountInput
namespace Json

/-- The encodings of a JSON file. -/
inductive Encoding where
  | utf8
  | utf16 (lowFirst : Bool)
  | utf32 (lowFirst : Bool)
deriving DecidableEq

/-- The encoding of a file without a mark. -/
def unmarkedEncoding : List UInt8 → Encoding
  | a :: b :: c :: d :: _ =>
    if a = 0 then (if b = 0 then .utf32 false else .utf16 false)
    else if b = 0 then (if c = 0 ∧ d = 0 then .utf32 true else .utf16 true)
    else .utf8
  | [a, b] => if a = 0 then .utf16 false else if b = 0 then .utf16 true else .utf8
  | _ => .utf8

/-- The encoding of a file, and its bytes without a mark. -/
def encoding : List UInt8 → Encoding × List UInt8
  | 0x00 :: 0x00 :: 0xfe :: 0xff :: bs => (.utf32 false, bs)
  | 0xff :: 0xfe :: 0x00 :: 0x00 :: bs => (.utf32 true, bs)
  | 0xfe :: 0xff :: bs => (.utf16 false, bs)
  | 0xff :: 0xfe :: bs => (.utf16 true, bs)
  | 0xef :: 0xbb :: 0xbf :: bs => (.utf8, bs)
  | bs => (unmarkedEncoding bs, bs)

def fileText? (bs : List UInt8) : Option (List Char) :=
  match encoding bs with
  | (.utf8, bs) => Utf8.decodeWithHalves? bs
  | (.utf16 lowFirst, bs) => Text.utf16? lowFirst bs
  | (.utf32 lowFirst, bs) => Text.utf32? lowFirst bs

end Json
end AccountInput
