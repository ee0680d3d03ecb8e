/-
This file holds the style sheets of an export and makes them small.
-/

import Storyboard.Text.Blank

namespace Storyboard

/-- Lines of text, each with its end. -/
def unlines (lines : List String) : String := "\n".intercalate lines ++ "\n"

namespace Stylesheet

def plainRules : List String := [
  "/* Exported prototype styles */",
  r"* {",
  "  margin: 0;",
  "  padding: 0;",
  "  box-sizing: border-box;",
  r"}",
  "",
  r"body {",
  "  font-family: -apple-system, BlinkMacSystemFont, 'Segoe UI', Roboto, sans-serif;",
  "  background-color: #f5f5f5;",
  "  overflow: hidden;",
  r"}",
  "",
  r".prototype-container {",
  "  width: 100vw;",
  "  height: 100vh;",
  "  display: flex;",
  "  flex-direction: column;",
  "  align-items: center;",
  "  justify-content: center;",
  r"}",
  "",
  r".screen {",
  "  overflow: auto;",
  r"}",
  "",
  r".screen-content {",
  "  background-color: white;",
  "  box-shadow: 0 4px 20px rgba(0, 0, 0, 0.1);",
  "  overflow: hidden;",
  r"}",
  "",
  r".nav-controls {",
  "  position: fixed;",
  "  bottom: 20px;",
  "  left: 50%;",
  "  transform: translateX(-50%);",
  "  display: flex;",
  "  align-items: center;",
  "  gap: 10px;",
  "  z-index: 1000;",
  r"}",
  "",
  r".nav-btn {",
  "  padding: 10px 20px;",
  "  background-color: #007aff;",
  "  color: white;",
  "  border: none;",
  "  border-radius: 6px;",
  "  cursor: pointer;",
  "  font-size: 14px;",
  r"}",
  "",
  r".nav-btn:hover {",
  "  background-color: #0056cc;",
  r"}",
  "",
  r".nav-info {",
  "  font-size: 14px;",
  "  color: #555;",
  r"}"]

/-- The rules for images in a plain style sheet. -/
def plainImageRules : List String := [
  "",
  r".image-placeholder {",
  "  background-image: linear-gradient(135deg, #e0e0e0 25%, #f5f5f5 25%, #f5f5f5 50%, " ++
    "#e0e0e0 50%, #e0e0e0 75%, #f5f5f5 75%);",
  "  background-size: 16px 16px;",
  r"}"]

/-- The rules of a style sheet of utility classes. -/
def utilityRules : List String := [
  "@tailwind base;",
  "@tailwind components;",
  "@tailwind utilities;",
  "",
  r".prototype-container {",
  "  @apply min-h-screen bg-gray-50 flex flex-col items-center justify-center;",
  r"}",
  "",
  r".screen-content {",
  "  @apply relative bg-white rounded-lg shadow-lg overflow-hidden;",
  r"}",
  "",
  r".nav-controls {",
  "  @apply fixed bottom-6 left-1/2 -translate-x-1/2 flex items-center gap-3 z-50;",
  r"}",
  "",
  r".nav-btn {",
  "  @apply px-4 py-2 bg-blue-600 text-white rounded-lg hover:bg-blue-700 transition-colors;",
  r"}",
  "",
  r".nav-info {",
  "  @apply px-4 py-2 text-sm text-gray-600 bg-white rounded-lg shadow-sm;",
  r"}"]

/-- The rules for images in a style sheet of utility classes. -/
def utilityImageRules : List String := [
  "",
  r".image-placeholder {",
  "  @apply bg-gray-200;",
  r"}"]

/-- Puts one space in place of each run of blanks. -/
def collapse : (afterBlank : Bool) → List Char → List Char
  | _, [] => []
  | afterBlank, character :: rest =>
      if Text.isBlank character then
        if afterBlank then collapse true rest else ' ' :: collapse true rest
      else character :: collapse false rest

/-- A mark needs no space around it. -/
def isMark (character : Char) : Bool := character ∈ ['\x7b', '\x7d', ';', ':', ',']

def startsWithMark : List Char → Bool
  | character :: _ => isMark character
  | [] => false

/-- Drops the spaces next to marks. -/
def tighten : (afterMark : Bool) → List Char → List Char
  | _, [] => []
  | afterMark, character :: rest =>
      if character = ' ' then
        if afterMark || startsWithMark rest then tighten afterMark rest else ' ' :: tighten false rest
      else character :: tighten (isMark character) rest

/-- A style sheet on one line, with no more spaces than it needs. -/
def minify (css : String) : String :=
  String.ofList (tighten false (Text.trimBy Text.isBlank (collapse false css.toList)))

/-- The two kinds of style sheets. -/
inductive Kind where
  | plain
  | utility
  deriving DecidableEq, Repr

def rules : Kind → List String
  | .plain => plainRules
  | .utility => utilityRules

/-- The rules for images of a kind of style sheet. -/
def imageRules : Kind → List String
  | .plain => plainImageRules
  | .utility => utilityImageRules

/-- A style sheet, with or without the rules for images, and small or not. -/
def text (kind : Kind) (includeImages small : Bool) : String :=
  let css := unlines (rules kind) ++ (if includeImages then unlines (imageRules kind) else "")
  if small then minify css else css

end Stylesheet

end Storyboard
