/-!
# Texts

A text is a list of characters: lengths, cuts and positions count characters.
-/

namespace BotCanvas

/-- A text, character by character. -/
abbrev Text := List Char

instance : Coe String Text := ⟨String.toList⟩

end BotCanvas
