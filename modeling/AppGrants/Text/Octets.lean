import AppGrants.Text.Utf8

/-! Bytes as characters: each byte is the character of that number. Texts of unknown encoding are kept in this form. -/
namespace AppGrants.Text

def octetsOfBytes (bytes : Bytes) : List Char := bytes.map fun b => Char.ofNat b.toNat

def bytesOfOctets (octets : List Char) : Bytes := octets.map fun c => UInt8.ofNat c.toNat

def octets (text : String) : List Char := octetsOfBytes (utf8 text)

/-- What is no UTF-8 is replaced. -/
def textOfOctets (octets : List Char) : String := ofUtf8Lossy (bytesOfOctets octets)

end AppGrants.Text
