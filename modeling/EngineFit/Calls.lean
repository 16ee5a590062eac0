/-!
# Call levels

Nested text (JSON, YAML) is read by calls that nest as deep as the text does, and calls nest at
most `callLimit` levels deep: a read that would go deeper fails with a recursion error. How deep
a text may nest therefore depends on how deep the read starts.

Functions that read such text, directly or through others, take the call level `level` at which
they run. What they call runs one level deeper, and an object made by calling its type runs its
setup two levels deeper (the call of the type, then the setup). A reader is given the levels
left above its caller, `roomAbove level`, and spends them as its own nesting requires
(`Json.read`, `Yaml.read`).
-/

namespace EngineFit

/-- The deepest call level that can run. -/
def callLimit : Nat := 1000

/-- The call levels left above a call running at `level`. -/
def roomAbove (level : Nat) : Nat := callLimit - level

end EngineFit
