import PoolLint.Text.CharacterNameWords
import PoolLint.Text.Pieces

/-! Names of characters, as they are written for a character that is hard to type. A text counts as
such a name if all its words are words of names. -/
namespace PoolLint.Text

def isNameWord (word : List Char) : Bool :=
  characterNameWords.any fun line => (pieces ' ' line.toList).contains word

/-- Whether a text reads as the name of a character. The case of its letters does not matter. -/
def isCharacterName (cs : List Char) : Bool :=
  !cs.isEmpty && (pieces ' ' (cs.map Char.toUpper)).all isNameWord

end PoolLint.Text
