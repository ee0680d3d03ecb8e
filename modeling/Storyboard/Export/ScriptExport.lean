/-
This file makes the files of exports in script components, plain or with parts of the design system.
-/

import Storyboard.Export.Navigation
import Storyboard.Export.Rendering

namespace Storyboard.ScriptExport

/-- The identifiers that every component module declares. -/
def reservedNames : List String := ["React", "ReactDOM", "useEffect", "useState", "screens", "CurrentScreen"]

/-- The name of the function for a screen. -/
def screenName (index : Nat) : String := s!"Screen{index}"

/-- The names that are taken in the module of a rendering. -/
def takenNames (rendering : Rendering) : List String :=
  reservedNames ++ rendering.imports.map (·.1) ++ rendering.screens.map (screenName ·.index)

/-- Lengthens a name until it is not taken. As many tries as there are taken names are enough. -/
def freshName (taken : List String) : (tries : Nat) → (name : String) → String
  | 0, name => name
  | tries + 1, name => if name ∈ taken then freshName taken tries (name ++ "Prototype") else name

/-- The name under which the main component is exported. -/
def exportName (rendering : Rendering) : String :=
  let taken := takenNames rendering
  freshName taken taken.length rendering.componentName

def screenFunction (rendering : Rendering) (screen : RenderedScreen) : String :=
  "\n".intercalate [
    "function " ++ screenName screen.index ++ "() \x7b",
    "  return (",
    "    <div className=\"screen-content\" " ++ Declaration.scriptAttribute screen.style ++ ">",
    rendering.screenText screen 3,
    "    </div>",
    "  );",
    r"}"]

/-- The line that imports a component of the design system. -/
def importLine (component slug : String) : String :=
  "import \x7b " ++ component ++ " \x7d from '" ++ Format.designSystemPackage ++ "/" ++ slug ++ "';"

def componentPath (rendering : Rendering) : String := s!"src/components/{rendering.componentName}.jsx"

/-- The module of the main component. -/
def component (rendering : Rendering) : File where
  path := componentPath rendering
  content := unlines <|
    [r"import React, { useEffect, useState } from 'react';"] ++
    rendering.imports.map (fun (component, slug) => importLine component slug) ++
    ["",
      "\n\n".intercalate (rendering.screens.map (screenFunction rendering)),
      "",
      "const screens = [" ++ ", ".intercalate (rendering.screens.map (screenName ·.index)) ++ "];",
      "",
      "export default function " ++ exportName rendering ++ "() \x7b",
      "  const [currentScreen, setCurrentScreen] = useState(0);",
      "  const screenCount = screens.length;",
      "",
      "  const nextScreen = () => setCurrentScreen((index) => " ++
        Navigation.Move.next.expression.text "index" "screenCount" ++ ");",
      "  const prevScreen = () => setCurrentScreen((index) => " ++
        Navigation.Move.previous.expression.text "index" "screenCount" ++ ");",
      "",
      r"  useEffect(() => {",
      r"    const onKeyDown = (event) => {",
      "      if (event.key === 'ArrowRight') nextScreen();",
      "      if (event.key === 'ArrowLeft') prevScreen();",
      r"    };",
      "    window.addEventListener('keydown', onKeyDown);",
      "    return () => window.removeEventListener('keydown', onKeyDown);",
      r"  }, []);",
      "",
      "  const CurrentScreen = screens[currentScreen];",
      "",
      "  return (",
      r#"    <div className="prototype-container">"#,
      r#"      <div className="screen" data-screen-index={currentScreen}>"#,
      "        <CurrentScreen />",
      "      </div>",
      r#"      <div className="nav-controls">"#,
      r#"        <button type="button" className="nav-btn" onClick={prevScreen}>Previous</button>"#,
      r#"        <span className="nav-info">{currentScreen + 1} of {screenCount}</span>"#,
      r#"        <button type="button" className="nav-btn" onClick={nextScreen}>Next</button>"#,
      "      </div>",
      "    </div>",
      "  );",
      r"}"]

/-- The script that mounts the main component. -/
def entryScript (rendering : Rendering) : File where
  path := "src/main.jsx"
  content :=
    let name := exportName rendering
    unlines <|
      ["import React from 'react';",
        "import ReactDOM from 'react-dom/client';",
        s!"import {name} from './components/{rendering.componentName}.jsx';"] ++
      (if rendering.options.includeStyles then ["import './index.css';"] else []) ++
      ["",
        "ReactDOM.createRoot(document.getElementById('root')).render(",
        "  <React.StrictMode>",
        s!"    <{name} />",
        "  </React.StrictMode>",
        ");"]

/-- The settings of the bundler. -/
def bundlerFile : File where
  path := "vite.config.js"
  content := unlines [
    r"import { defineConfig } from 'vite'",
    "import react from '@vitejs/plugin-react'",
    "",
    r"export default defineConfig({",
    "  plugins: [react()],",
    r"  server: {",
    "    port: 3000,",
    "    open: true",
    r"  }",
    r"})"]

/-- The settings of the utility classes. -/
def utilityFile : File where
  path := "tailwind.config.js"
  content := unlines [
    r"/** @type {import('tailwindcss').Config} */",
    r"export default {",
    "  content: [",
    "    './index.html',",
    r"    './src/**/*.{js,ts,jsx,tsx}',",
    "  ],",
    r"  theme: {",
    r"    extend: {},",
    r"  },",
    "  plugins: [],",
    r"}"]

/-- The settings of the style sheet processor. -/
def processorFile : File where
  path := "postcss.config.js"
  content := unlines [
    r"export default {",
    r"  plugins: {",
    r"    tailwindcss: {},",
    r"    autoprefixer: {},",
    r"  },",
    r"}"]

/-- The page, the scripts and the style sheet. -/
def sources (rendering : Rendering) (kind : Stylesheet.Kind) : List File :=
  [rendering.entryPage "root" "/src/main.jsx", entryScript rendering, component rendering] ++
    rendering.stylesheetFiles "src/index.css" kind

/-- All files of an export in plain components. -/
def files (rendering : Rendering) : List File :=
  rendering.withDescription (sources rendering .plain ++ [bundlerFile])

/-- All files of an export with parts of the design system. -/
def designSystemFiles (rendering : Rendering) : List File :=
  rendering.withDescription (sources rendering .utility ++ [bundlerFile, utilityFile, processorFile])

end Storyboard.ScriptExport
