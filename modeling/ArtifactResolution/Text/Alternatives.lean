namespace ArtifactResolution.Text
set_option autoImplicit false

/-- The alternatives in words; two are joined, more are listed. -/
def alternatives : List String → String
  | [a] => s!"`{a}`"
  | [a, b] => s!"`{a}` or `{b}`"
  | names => "one of " ++ ", ".intercalate (names.map fun a => s!"`{a}`")

end ArtifactResolution.Text
