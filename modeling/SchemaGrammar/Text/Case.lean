/-!
# Small letters

The small letters of the Latin, Greek and Cyrillic alphabets, for names whose case does not count.
-/
namespace SchemaGrammar.Text

def smallLetter (c : Char) : Char :=
  let n := c.toNat
  if n < 0x80 then c.toLower
  else if n = 0x212A then 'k'
  else if n = 0x212B then 'å'
  else if (0xC0 ≤ n && n ≤ 0xDE && n ≠ 0xD7) || (0x391 ≤ n && n ≤ 0x3AB && n ≠ 0x3A2) ||
      (0x410 ≤ n && n ≤ 0x42F) then Char.ofNat (n + 0x20)
  else if 0x400 ≤ n && n ≤ 0x40F then Char.ofNat (n + 0x50)
  else c

end SchemaGrammar.Text
