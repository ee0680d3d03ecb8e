/-
This file makes the files of an export with a template component.
-/

import Storyboard.Export.MarkupExport

namespace Storyboard.TemplateExport

/-- A screen that is shown while it is the current one. -/
def screenBlock (rendering : Rendering) (screen : RenderedScreen) : List String :=
  [s!"    <div class=\"screen\" v-show=\"currentScreen === {screen.index}\" " ++
      s!"data-screen-index=\"{screen.index}\">",
    MarkupExport.contentTag screen,
    rendering.screenText screen 4,
    "      </div>",
    "    </div>"]

def componentPath (rendering : Rendering) : String := s!"src/components/{rendering.componentName}.vue"

/-- The component with all screens. -/
def component (rendering : Rendering) : File where
  path := componentPath rendering
  content := unlines [
    "<template>",
    r#"  <div class="prototype-container">"#,
    "\n".intercalate (rendering.screens.flatMap (screenBlock rendering)),
    r#"    <div class="nav-controls">"#,
    r#"      <button type="button" class="nav-btn" @click="prevScreen">Previous</button>"#,
    r#"      <span class="nav-info">{{ currentScreen + 1 }} of {{ screenCount }}</span>"#,
    r#"      <button type="button" class="nav-btn" @click="nextScreen">Next</button>"#,
    "    </div>",
    "  </div>",
    "</template>",
    "",
    "<script>",
    r"export default {",
    "  name: '" ++ rendering.componentName ++ "',",
    r"  data() {",
    r"    return {",
    "      currentScreen: 0,",
    s!"      screenCount: {rendering.screens.length},",
    r"    };",
    r"  },",
    r"  mounted() {",
    "    window.addEventListener('keydown', this.onKeyDown);",
    r"  },",
    r"  beforeUnmount() {",
    "    window.removeEventListener('keydown', this.onKeyDown);",
    r"  },",
    r"  methods: {",
    r"    nextScreen() {",
    "      this.currentScreen = " ++
      Navigation.Move.next.expression.text "this.currentScreen" "this.screenCount" ++ ";",
    r"    },",
    r"    prevScreen() {",
    "      this.currentScreen = " ++
      Navigation.Move.previous.expression.text "this.currentScreen" "this.screenCount" ++ ";",
    r"    },",
    r"    onKeyDown(event) {",
    "      if (event.key === 'ArrowRight') this.nextScreen();",
    "      if (event.key === 'ArrowLeft') this.prevScreen();",
    r"    },",
    r"  },",
    r"};",
    "</script>"]

/-- The root component, which shows the one with the screens. -/
def root (rendering : Rendering) : File where
  path := "src/App.vue"
  content :=
    let name := rendering.componentName
    unlines [
      "<template>",
      s!"  <{name} />",
      "</template>",
      "",
      "<script>",
      s!"import {name} from './components/{name}.vue';",
      "",
      r"export default {",
      "  name: 'App',",
      "  components: \x7b " ++ name ++ " \x7d,",
      r"};",
      "</script>"]

/-- The script that mounts the root component. -/
def entryScript (rendering : Rendering) : File where
  path := "src/main.js"
  content := unlines <|
    [r"import { createApp } from 'vue';",
      "import App from './App.vue';"] ++
    (if rendering.options.includeStyles then ["import './style.css';"] else []) ++
    ["",
      "createApp(App).mount('#app');"]

/-- The settings of the bundler. -/
def bundlerFile : File where
  path := "vite.config.js"
  content := unlines [
    r"import { defineConfig } from 'vite'",
    "import vue from '@vitejs/plugin-vue'",
    "",
    r"export default defineConfig({",
    "  plugins: [vue()],",
    r"  server: {",
    "    port: 3000,",
    "    open: true",
    r"  }",
    r"})"]

def files (rendering : Rendering) : List File :=
  rendering.withDescription <|
    [rendering.entryPage "app" "/src/main.js",
      entryScript rendering,
      root rendering,
      component rendering] ++
    rendering.stylesheetFiles "src/style.css" .plain ++
    [bundlerFile]

end Storyboard.TemplateExport
