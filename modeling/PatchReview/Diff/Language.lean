import PatchReview.Diff.Path

/-!
# Languages

The language of a file is looked up by its extension. A file without an extension is looked up by
its whole base name.
-/

namespace PatchReview
namespace Language

def byExtension : List (String × String) :=
  [("swift", "Swift"), ("ts", "TypeScript"), ("tsx", "TypeScript"), ("js", "JavaScript"),
   ("jsx", "JavaScript"), ("py", "Python"), ("rb", "Ruby"), ("go", "Go"), ("rs", "Rust"),
   ("java", "Java"), ("kt", "Kotlin"), ("kts", "Kotlin"), ("scala", "Scala"), ("c", "C"),
   ("h", "C"), ("cpp", "C++"), ("cc", "C++"), ("hpp", "C++"), ("cs", "C#"), ("m", "Objective-C"),
   ("mm", "Objective-C++"), ("php", "PHP"), ("html", "HTML"), ("css", "CSS"), ("scss", "SCSS"),
   ("sass", "SASS"), ("less", "LESS"), ("json", "JSON"), ("yaml", "YAML"), ("yml", "YAML"),
   ("xml", "XML"), ("md", "Markdown"), ("sql", "SQL"), ("sh", "Shell"), ("bash", "Bash"),
   ("zsh", "Zsh"), ("dockerfile", "Dockerfile"), ("tf", "Terraform"), ("vue", "Vue"),
   ("svelte", "Svelte")]

def byBaseName : List (String × String) :=
  [("dockerfile", "Dockerfile"), ("makefile", "Makefile")]

/-- The language of a file, if its extension or its base name is known. -/
def ofPath? (path : String) : Option String :=
  let base := Text.lower (Path.baseName path.toList)
  match Path.extension? base with
  | some ext => byExtension.lookup (String.ofList ext)
  | none => byBaseName.lookup (String.ofList base)

end Language

def Diff.File.language? (f : Diff.File) : Option String := Language.ofPath? f.path

end PatchReview
