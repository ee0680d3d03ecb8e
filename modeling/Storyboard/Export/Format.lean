/-
This file defines the formats of an export.
-/

import Storyboard.Markup.Declaration
import Storyboard.Text.Case

namespace Storyboard

/-- The language in which elements are written. -/
inductive Dialect where
  /-- Plain markup. -/
  | markup
  /-- Markup inside a script. -/
  | script
  deriving DecidableEq, Repr

namespace Dialect

/-- The name of the attribute for classes. -/
def classAttribute : Dialect → String
  | .markup => "class"
  | .script => "className"

def writeAttribute : Dialect → String → Json → String
  | .markup => Markup.plainAttribute
  | .script => Markup.scriptAttribute

/-- Writes declarations as an attribute. -/
def writeStyle : Dialect → List Declaration → String
  | .markup => Declaration.plainAttribute
  | .script => Declaration.scriptAttribute

def writeText : Dialect → String → String
  | .markup => Markup.escapeText
  | .script => Markup.scriptText

end Dialect

/-- The formats of an export. -/
inductive Format where
  | html
  | react
  | vue
  | moneyview
  deriving DecidableEq, Repr, Inhabited

namespace Format

/-- All formats in the order in which they are offered. -/
def all : List Format := [.html, .react, .vue, .moneyview]

/-- The name by which a format is asked for. -/
def name : Format → String
  | .html => "html"
  | .react => "react"
  | .vue => "vue"
  | .moneyview => "moneyview"

/-- The name of a format in running text. -/
def label : Format → String
  | .html => "HTML"
  | .react => "React"
  | .vue => "Vue"
  | .moneyview => "Moneyview Design System"

/-- The format with a name, where case and blanks around it do not count. -/
def ofName? (name : String) : Option Format :=
  let small := Text.toSmall (Text.trim name)
  all.find? (·.name = small)

def dialect : Format → Dialect
  | .html | .vue => .markup
  | .react | .moneyview => .script

/-- An attribute that marks text as literal. -/
def textMarker? : Format → Option String
  | .vue => some "v-pre"
  | _ => none

/-- Nodes of the design system become its components. -/
def bindsComponents : Format → Bool
  | .moneyview => true
  | _ => false

/-- The categories whose children are placed from the corner of their parent. -/
def rebasedCategories : Format → List String
  | .moneyview => ["Card", "Dialog"]
  | _ => []

def designSystemPackage : String := "@moneyview/design-system"

def bundlerVersion : String := "^4.4.0"

/-- The packages that a script needs. -/
def scriptDependencies : List (String × String) := [("react", "^18.2.0"), ("react-dom", "^18.2.0")]

/-- The packages that the bundling of a script needs. -/
def scriptDevDependencies : List (String × String) :=
  [("@vitejs/plugin-react", "^4.0.0"), ("vite", bundlerVersion)]

/-- The packages that an export needs when it runs. -/
def dependencies : Format → List (String × String)
  | .html => []
  | .react => scriptDependencies
  | .vue => [("vue", "^3.3.0")]
  | .moneyview => scriptDependencies ++ [(designSystemPackage, "^1.0.0"), ("tailwindcss", "^3.3.0")]

/-- The packages that an export needs while it is built. -/
def devDependencies : Format → List (String × String)
  | .html => [("vite", bundlerVersion)]
  | .react => scriptDevDependencies
  | .vue => [("@vitejs/plugin-vue", "^4.0.0"), ("vite", bundlerVersion)]
  | .moneyview => scriptDevDependencies ++ [("autoprefixer", "^10.4.0"), ("postcss", "^8.4.0")]

end Format

end Storyboard
