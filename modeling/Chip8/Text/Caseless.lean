namespace Chip8.Text

/-- The lower case of a character as far as it can matter to a name in ASCII letters: besides the capital
letters of ASCII, only the Kelvin sign has a single ASCII letter as its lower case. -/
def lowerChar (c : Char) : Char := if c = '\u212A' then 'k' else c.toLower

def lower (s : String) : String := s.map lowerChar

def upper (s : String) : String := s.map Char.toUpper

end Chip8.Text
