import FeatureSuite.Gherkin.Dialect.Basic

/-!
# The dialects

The words of every language that feature files can be written in. Most step words end with a blank,
which separates them from the text; languages written without blanks have none.
-/

namespace FeatureSuite.Gherkin

/-- The languages whose codes start with a letter from a to e. -/
def dialectsAToE : List Dialect := [
  { name := "af"
    feature := ["Funksie", "Besigheid Behoefte", "Vermoë"]
    rule := ["Regel"]
    background := ["Agtergrond"]
    scenario := ["Voorbeeld", "Situasie"]
    outline := ["Situasie Uiteensetting"]
    examples := ["Voorbeelde"]
    given := ["* ", "Gegewe "]
    when := ["* ", "Wanneer "]
    outcome := ["* ", "Dan "]
    and := ["* ", "En "]
    but := ["* ", "Maar "] },
  { name := "am"
    feature := ["Ֆունկցիոնալություն", "Հատկություն"]
    rule := ["Rule"]
    background := ["Կոնտեքստ"]
    scenario := ["Օրինակ", "Սցենար"]
    outline := ["Սցենարի կառուցվացքը"]
    examples := ["Օրինակներ"]
    given := ["* ", "Դիցուք "]
    when := ["* ", "Եթե ", "Երբ "]
    outcome := ["* ", "Ապա "]
    and := ["* ", "Եվ "]
    but := ["* ", "Բայց "] },
  { name := "amh"
    feature := ["ስራ", "የተፈለገው ስራ", "የሚፈለገው ድርጊት"]
    rule := ["ህግ"]
    background := ["ቅድመ ሁኔታ", "መነሻ", "መነሻ ሀሳብ"]
    scenario := ["ምሳሌ", "ሁናቴ"]
    outline := ["ሁናቴ ዝርዝር", "ሁናቴ አብነት"]
    examples := ["ምሳሌዎች", "ሁናቴዎች"]
    given := ["* ", "የተሰጠ "]
    when := ["* ", "መቼ "]
    outcome := ["* ", "ከዚያ "]
    and := ["* ", "እና "]
    but := ["* ", "ግን "] },
  { name := "an"
    feature := ["Caracteristica"]
    rule := ["Rule"]
    background := ["Antecedents"]
    scenario := ["Eixemplo", "Caso"]
    outline := ["Esquema del caso"]
    examples := ["Eixemplos"]
    given := ["* ", "Dau ", "Dada ", "Daus ", "Dadas "]
    when := ["* ", "Cuan "]
    outcome := ["* ", "Alavez ", "Allora ", "Antonces "]
    and := ["* ", "Y ", "E "]
    but := ["* ", "Pero "] },
  { name := "ar"
    feature := ["خاصية"]
    rule := ["Rule"]
    background := ["الخلفية"]
    scenario := ["مثال", "سيناريو"]
    outline := ["سيناريو مخطط"]
    examples := ["امثلة"]
    given := ["* ", "بفرض "]
    when := ["* ", "متى ", "عندما "]
    outcome := ["* ", "اذاً ", "ثم "]
    and := ["* ", "و "]
    but := ["* ", "لكن "] },
  { name := "ast"
    feature := ["Carauterística"]
    rule := ["Rule"]
    background := ["Antecedentes"]
    scenario := ["Exemplo", "Casu"]
    outline := ["Esbozu del casu"]
    examples := ["Exemplos"]
    given := ["* ", "Dáu ", "Dada ", "Daos ", "Daes "]
    when := ["* ", "Cuando "]
    outcome := ["* ", "Entós "]
    and := ["* ", "Y ", "Ya "]
    but := ["* ", "Peru "] },
  { name := "az"
    feature := ["Özəllik"]
    rule := ["Rule"]
    background := ["Keçmiş", "Kontekst"]
    scenario := ["Nümunə", "Ssenari"]
    outline := ["Ssenarinin strukturu"]
    examples := ["Nümunələr"]
    given := ["* ", "Tutaq ki ", "Verilir "]
    when := ["* ", "Əgər ", "Nə vaxt ki "]
    outcome := ["* ", "O halda "]
    and := ["* ", "Və ", "Həm "]
    but := ["* ", "Amma ", "Ancaq "] },
  { name := "be"
    feature := ["Функцыянальнасць", "Фіча"]
    rule := ["Правілы"]
    background := ["Кантэкст"]
    scenario := ["Сцэнарый", "Cцэнар"]
    outline := ["Шаблон сцэнарыя", "Узор сцэнара"]
    examples := ["Прыклады"]
    given := ["* ", "Няхай ", "Дадзена "]
    when := ["* ", "Калі "]
    outcome := ["* ", "Тады "]
    and := ["* ", "I ", "Ды ", "Таксама "]
    but := ["* ", "Але ", "Інакш "] },
  { name := "bg"
    feature := ["Функционалност"]
    rule := ["Правило"]
    background := ["Предистория"]
    scenario := ["Пример", "Сценарий"]
    outline := ["Рамка на сценарий"]
    examples := ["Примери"]
    given := ["* ", "Дадено "]
    when := ["* ", "Когато "]
    outcome := ["* ", "То "]
    and := ["* ", "И "]
    but := ["* ", "Но "] },
  { name := "bm"
    feature := ["Fungsi"]
    rule := ["Rule"]
    background := ["Latar Belakang"]
    scenario := ["Senario", "Situasi", "Keadaan"]
    outline := ["Kerangka Senario", "Kerangka Situasi", "Kerangka Keadaan", "Garis Panduan Senario"]
    examples := ["Contoh"]
    given := ["* ", "Diberi ", "Bagi "]
    when := ["* ", "Apabila "]
    outcome := ["* ", "Maka ", "Kemudian "]
    and := ["* ", "Dan "]
    but := ["* ", "Tetapi ", "Tapi "] },
  { name := "bs"
    feature := ["Karakteristika"]
    rule := ["Rule"]
    background := ["Pozadina"]
    scenario := ["Primjer", "Scenariju", "Scenario"]
    outline := ["Scenariju-obris", "Scenario-outline"]
    examples := ["Primjeri"]
    given := ["* ", "Dato "]
    when := ["* ", "Kada "]
    outcome := ["* ", "Zatim "]
    and := ["* ", "I ", "A "]
    but := ["* ", "Ali "] },
  { name := "ca"
    feature := ["Característica", "Funcionalitat"]
    rule := ["Rule"]
    background := ["Rerefons", "Antecedents"]
    scenario := ["Exemple", "Escenari"]
    outline := ["Esquema de l'escenari"]
    examples := ["Exemples"]
    given := ["* ", "Donat ", "Donada ", "Atès ", "Atesa "]
    when := ["* ", "Quan "]
    outcome := ["* ", "Aleshores ", "Cal "]
    and := ["* ", "I "]
    but := ["* ", "Però "] },
  { name := "cs"
    feature := ["Požadavek"]
    rule := ["Pravidlo"]
    background := ["Pozadí", "Kontext"]
    scenario := ["Příklad", "Scénář"]
    outline := ["Náčrt Scénáře", "Osnova scénáře"]
    examples := ["Příklady"]
    given := ["* ", "Pokud ", "Za předpokladu "]
    when := ["* ", "Když "]
    outcome := ["* ", "Pak "]
    and := ["* ", "A také ", "A "]
    but := ["* ", "Ale "] },
  { name := "cy-GB"
    feature := ["Arwedd"]
    rule := ["Rule"]
    background := ["Cefndir"]
    scenario := ["Enghraifft", "Scenario"]
    outline := ["Scenario Amlinellol"]
    examples := ["Enghreifftiau"]
    given := ["* ", "Anrhegedig a "]
    when := ["* ", "Pryd "]
    outcome := ["* ", "Yna "]
    and := ["* ", "A "]
    but := ["* ", "Ond "] },
  { name := "da"
    feature := ["Egenskab"]
    rule := ["Regel"]
    background := ["Baggrund"]
    scenario := ["Eksempel", "Scenarie"]
    outline := ["Abstrakt Scenario"]
    examples := ["Eksempler"]
    given := ["* ", "Givet "]
    when := ["* ", "Når "]
    outcome := ["* ", "Så "]
    and := ["* ", "Og "]
    but := ["* ", "Men "] },
  { name := "de"
    feature := ["Funktionalität", "Funktion"]
    rule := ["Rule", "Regel"]
    background := ["Grundlage", "Hintergrund", "Voraussetzungen", "Vorbedingungen"]
    scenario := ["Beispiel", "Szenario"]
    outline := ["Szenariogrundriss", "Szenarien"]
    examples := ["Beispiele"]
    given := ["* ", "Angenommen ", "Gegeben sei ", "Gegeben seien "]
    when := ["* ", "Wenn "]
    outcome := ["* ", "Dann "]
    and := ["* ", "Und "]
    but := ["* ", "Aber "] },
  { name := "el"
    feature := ["Δυνατότητα", "Λειτουργία"]
    rule := ["Rule"]
    background := ["Υπόβαθρο"]
    scenario := ["Παράδειγμα", "Σενάριο"]
    outline := ["Περιγραφή Σεναρίου", "Περίγραμμα Σεναρίου"]
    examples := ["Παραδείγματα", "Σενάρια"]
    given := ["* ", "Δεδομένου "]
    when := ["* ", "Όταν "]
    outcome := ["* ", "Τότε "]
    and := ["* ", "Και "]
    but := ["* ", "Αλλά "] },
  { name := "em"
    feature := ["📚"]
    rule := ["Rule"]
    background := ["💤"]
    scenario := ["🥒", "📕"]
    outline := ["📖"]
    examples := ["📓"]
    given := ["* ", "😐"]
    when := ["* ", "🎬"]
    outcome := ["* ", "🙏"]
    and := ["* ", "😂"]
    but := ["* ", "😔"] },
  { name := "en"
    feature := ["Feature", "Business Need", "Ability"]
    rule := ["Rule"]
    background := ["Background"]
    scenario := ["Example", "Scenario"]
    outline := ["Scenario Outline", "Scenario Template"]
    examples := ["Examples", "Scenarios"]
    given := ["* ", "Given "]
    when := ["* ", "When "]
    outcome := ["* ", "Then "]
    and := ["* ", "And "]
    but := ["* ", "But "] },
  { name := "en-Scouse"
    feature := ["Feature"]
    rule := ["Rule"]
    background := ["Dis is what went down"]
    scenario := ["The thing of it is"]
    outline := ["Wharrimean is"]
    examples := ["Examples"]
    given := ["* ", "Givun ", "Youse know when youse got "]
    when := ["* ", "Wun ", "Youse know like when "]
    outcome := ["* ", "Dun ", "Den youse gotta "]
    and := ["* ", "An "]
    but := ["* ", "Buh "] },
  { name := "en-au"
    feature := ["Pretty much"]
    rule := ["Rule"]
    background := ["First off"]
    scenario := ["Awww, look mate"]
    outline := ["Reckon it's like"]
    examples := ["You'll wanna"]
    given := ["* ", "Y'know "]
    when := ["* ", "It's just unbelievable "]
    outcome := ["* ", "But at the end of the day I reckon "]
    and := ["* ", "Too right "]
    but := ["* ", "Yeah nah "] },
  { name := "en-lol"
    feature := ["OH HAI"]
    rule := ["Rule"]
    background := ["B4"]
    scenario := ["MISHUN"]
    outline := ["MISHUN SRSLY"]
    examples := ["EXAMPLZ"]
    given := ["* ", "I CAN HAZ "]
    when := ["* ", "WEN "]
    outcome := ["* ", "DEN "]
    and := ["* ", "AN "]
    but := ["* ", "BUT "] },
  { name := "en-old"
    feature := ["Hwaet", "Hwæt"]
    rule := ["Rule"]
    background := ["Aer", "Ær"]
    scenario := ["Swa"]
    outline := ["Swa hwaer swa", "Swa hwær swa"]
    examples := ["Se the", "Se þe", "Se ðe"]
    given := ["* ", "Thurh ", "Þurh ", "Ðurh "]
    when := ["* ", "Bæþsealf ", "Bæþsealfa ", "Bæþsealfe ", "Ciricæw ", "Ciricæwe ", "Ciricæwa "]
    outcome := ["* ", "Tha ", "Þa ", "Ða ", "Tha the ", "Þa þe ", "Ða ðe "]
    and := ["* ", "Ond ", "7 "]
    but := ["* ", "Ac "] },
  { name := "en-pirate"
    feature := ["Ahoy matey!"]
    rule := ["Rule"]
    background := ["Yo-ho-ho"]
    scenario := ["Heave to"]
    outline := ["Shiver me timbers"]
    examples := ["Dead men tell no tales"]
    given := ["* ", "Gangway! "]
    when := ["* ", "Blimey! "]
    outcome := ["* ", "Let go and haul "]
    and := ["* ", "Aye "]
    but := ["* ", "Avast! "] },
  { name := "en-tx"
    feature := ["This ain’t my first rodeo", "All gussied up"]
    rule := ["Rule "]
    background := ["Lemme tell y'all a story"]
    scenario := ["All hat and no cattle"]
    outline := ["Serious as a snake bite", "Busy as a hound in flea season"]
    examples := ["Now that's a story longer than a cattle drive in July"]
    given := ["Fixin' to ", "All git out "]
    when := ["Quick out of the chute "]
    outcome := ["There’s no tree but bears some fruit "]
    and := ["Come hell or high water "]
    but := ["Well now hold on, I'll you what "] },
  { name := "eo"
    feature := ["Trajto"]
    rule := ["Regulo"]
    background := ["Fono"]
    scenario := ["Ekzemplo", "Scenaro", "Kazo"]
    outline := ["Konturo de la scenaro", "Skizo", "Kazo-skizo"]
    examples := ["Ekzemploj"]
    given := ["* ", "Donitaĵo ", "Komence "]
    when := ["* ", "Se "]
    outcome := ["* ", "Do "]
    and := ["* ", "Kaj "]
    but := ["* ", "Sed "] },
  { name := "es"
    feature := ["Característica", "Necesidad del negocio", "Requisito"]
    rule := ["Regla", "Regla de negocio"]
    background := ["Antecedentes"]
    scenario := ["Ejemplo", "Escenario"]
    outline := ["Esquema del escenario"]
    examples := ["Ejemplos"]
    given := ["* ", "Dado ", "Dada ", "Dados ", "Dadas "]
    when := ["* ", "Cuando "]
    outcome := ["* ", "Entonces "]
    and := ["* ", "Y ", "E "]
    but := ["* ", "Pero "] },
  { name := "et"
    feature := ["Omadus"]
    rule := ["Reegel"]
    background := ["Taust"]
    scenario := ["Juhtum", "Stsenaarium"]
    outline := ["Raamjuhtum", "Raamstsenaarium"]
    examples := ["Juhtumid"]
    given := ["* ", "Eeldades "]
    when := ["* ", "Kui "]
    outcome := ["* ", "Siis "]
    and := ["* ", "Ja "]
    but := ["* ", "Kuid "] }]

/-- The languages whose codes start with a letter from f to m. -/
def dialectsFToM : List Dialect := [
  { name := "fa"
    feature := ["وِیژگی"]
    rule := ["Rule"]
    background := ["زمینه"]
    scenario := ["مثال", "سناریو"]
    outline := ["الگوی سناریو"]
    examples := ["نمونه ها"]
    given := ["* ", "با فرض "]
    when := ["* ", "هنگامی "]
    outcome := ["* ", "آنگاه "]
    and := ["* ", "و "]
    but := ["* ", "اما "] },
  { name := "fi"
    feature := ["Ominaisuus"]
    rule := ["Rule"]
    background := ["Tausta"]
    scenario := ["Tapaus"]
    outline := ["Tapausaihio"]
    examples := ["Tapaukset"]
    given := ["* ", "Oletetaan "]
    when := ["* ", "Kun "]
    outcome := ["* ", "Niin "]
    and := ["* ", "Ja "]
    but := ["* ", "Mutta "] },
  { name := "fr"
    feature := ["Fonctionnalité"]
    rule := ["Règle"]
    background := ["Contexte"]
    scenario := ["Exemple", "Scénario"]
    outline := ["Plan du scénario", "Plan du Scénario"]
    examples := ["Exemples"]
    given := ["* ", "Soit ", "Sachant que ", "Sachant qu'", "Sachant ", "Etant donné que ", "Etant donné qu'", "Etant donné ", "Etant donnée ", "Etant donnés ", "Etant données ", "Étant donné que ", "Étant donné qu'", "Étant donné ", "Étant donnée ", "Étant donnés ", "Étant données "]
    when := ["* ", "Quand ", "Lorsque ", "Lorsqu'"]
    outcome := ["* ", "Alors ", "Donc "]
    and := ["* ", "Et que ", "Et qu'", "Et "]
    but := ["* ", "Mais que ", "Mais qu'", "Mais "] },
  { name := "ga"
    feature := ["Gné"]
    rule := ["Rule"]
    background := ["Cúlra"]
    scenario := ["Sampla", "Cás"]
    outline := ["Cás Achomair"]
    examples := ["Samplaí"]
    given := ["* ", "Cuir i gcás go ", "Cuir i gcás nach ", "Cuir i gcás gur ", "Cuir i gcás nár "]
    when := ["* ", "Nuair a ", "Nuair nach ", "Nuair ba ", "Nuair nár "]
    outcome := ["* ", "Ansin "]
    and := ["* ", "Agus "]
    but := ["* ", "Ach "] },
  { name := "gj"
    feature := ["લક્ષણ", "વ્યાપાર જરૂર", "ક્ષમતા"]
    rule := ["Rule"]
    background := ["બેકગ્રાઉન્ડ"]
    scenario := ["ઉદાહરણ", "સ્થિતિ"]
    outline := ["પરિદ્દશ્ય રૂપરેખા", "પરિદ્દશ્ય ઢાંચો"]
    examples := ["ઉદાહરણો"]
    given := ["* ", "આપેલ છે "]
    when := ["* ", "ક્યારે "]
    outcome := ["* ", "પછી "]
    and := ["* ", "અને "]
    but := ["* ", "પણ "] },
  { name := "gl"
    feature := ["Característica"]
    rule := ["Rule"]
    background := ["Contexto"]
    scenario := ["Exemplo", "Escenario"]
    outline := ["Esbozo do escenario"]
    examples := ["Exemplos"]
    given := ["* ", "Dado ", "Dada ", "Dados ", "Dadas "]
    when := ["* ", "Cando "]
    outcome := ["* ", "Entón ", "Logo "]
    and := ["* ", "E "]
    but := ["* ", "Mais ", "Pero "] },
  { name := "he"
    feature := ["תכונה"]
    rule := ["כלל"]
    background := ["רקע"]
    scenario := ["דוגמא", "תרחיש"]
    outline := ["תבנית תרחיש"]
    examples := ["דוגמאות"]
    given := ["* ", "בהינתן "]
    when := ["* ", "כאשר "]
    outcome := ["* ", "אז ", "אזי "]
    and := ["* ", "וגם "]
    but := ["* ", "אבל "] },
  { name := "hi"
    feature := ["रूप लेख"]
    rule := ["नियम"]
    background := ["पृष्ठभूमि"]
    scenario := ["परिदृश्य"]
    outline := ["परिदृश्य रूपरेखा"]
    examples := ["उदाहरण"]
    given := ["* ", "अगर ", "यदि ", "चूंकि "]
    when := ["* ", "जब ", "कदा "]
    outcome := ["* ", "तब ", "तदा "]
    and := ["* ", "और ", "तथा "]
    but := ["* ", "पर ", "परन्तु ", "किन्तु "] },
  { name := "hr"
    feature := ["Osobina", "Mogućnost", "Mogucnost"]
    rule := ["Rule"]
    background := ["Pozadina"]
    scenario := ["Primjer", "Scenarij"]
    outline := ["Skica", "Koncept"]
    examples := ["Primjeri", "Scenariji"]
    given := ["* ", "Zadan ", "Zadani ", "Zadano ", "Ukoliko "]
    when := ["* ", "Kada ", "Kad "]
    outcome := ["* ", "Onda "]
    and := ["* ", "I "]
    but := ["* ", "Ali "] },
  { name := "ht"
    feature := ["Karakteristik", "Mak", "Fonksyonalite"]
    rule := ["Rule"]
    background := ["Kontèks", "Istorik"]
    scenario := ["Senaryo"]
    outline := ["Plan senaryo", "Plan Senaryo", "Senaryo deskripsyon", "Senaryo Deskripsyon", "Dyagram senaryo", "Dyagram Senaryo"]
    examples := ["Egzanp"]
    given := ["* ", "Sipoze ", "Sipoze ke ", "Sipoze Ke "]
    when := ["* ", "Lè ", "Le "]
    outcome := ["* ", "Lè sa a ", "Le sa a "]
    and := ["* ", "Ak ", "Epi ", "E "]
    but := ["* ", "Men "] },
  { name := "hu"
    feature := ["Jellemző"]
    rule := ["Szabály"]
    background := ["Háttér"]
    scenario := ["Példa", "Forgatókönyv"]
    outline := ["Forgatókönyv vázlat"]
    examples := ["Példák"]
    given := ["* ", "Amennyiben ", "Adott "]
    when := ["* ", "Majd ", "Ha ", "Amikor "]
    outcome := ["* ", "Akkor "]
    and := ["* ", "És "]
    but := ["* ", "De "] },
  { name := "id"
    feature := ["Fitur"]
    rule := ["Rule", "Aturan"]
    background := ["Dasar", "Latar Belakang"]
    scenario := ["Skenario"]
    outline := ["Skenario konsep", "Garis-Besar Skenario"]
    examples := ["Contoh", "Misal"]
    given := ["* ", "Dengan ", "Diketahui ", "Diasumsikan ", "Bila ", "Jika "]
    when := ["* ", "Ketika "]
    outcome := ["* ", "Maka ", "Kemudian "]
    and := ["* ", "Dan "]
    but := ["* ", "Tapi ", "Tetapi "] },
  { name := "is"
    feature := ["Eiginleiki"]
    rule := ["Rule"]
    background := ["Bakgrunnur"]
    scenario := ["Atburðarás"]
    outline := ["Lýsing Atburðarásar", "Lýsing Dæma"]
    examples := ["Dæmi", "Atburðarásir"]
    given := ["* ", "Ef "]
    when := ["* ", "Þegar "]
    outcome := ["* ", "Þá "]
    and := ["* ", "Og "]
    but := ["* ", "En "] },
  { name := "it"
    feature := ["Funzionalità", "Esigenza di Business", "Abilità"]
    rule := ["Regola"]
    background := ["Contesto"]
    scenario := ["Esempio", "Scenario"]
    outline := ["Schema dello scenario"]
    examples := ["Esempi"]
    given := ["* ", "Dato ", "Data ", "Dati ", "Date "]
    when := ["* ", "Quando "]
    outcome := ["* ", "Allora "]
    and := ["* ", "E ", "Ed "]
    but := ["* ", "Ma "] },
  { name := "ja"
    feature := ["フィーチャ", "機能"]
    rule := ["ルール"]
    background := ["背景"]
    scenario := ["シナリオ"]
    outline := ["シナリオアウトライン", "シナリオテンプレート", "テンプレ", "シナリオテンプレ"]
    examples := ["例", "サンプル"]
    given := ["* ", "前提"]
    when := ["* ", "もし"]
    outcome := ["* ", "ならば"]
    and := ["* ", "且つ", "かつ"]
    but := ["* ", "然し", "しかし", "但し", "ただし"] },
  { name := "jv"
    feature := ["Fitur"]
    rule := ["Rule"]
    background := ["Dasar"]
    scenario := ["Skenario"]
    outline := ["Konsep skenario"]
    examples := ["Conto", "Contone"]
    given := ["* ", "Nalika ", "Nalikaning "]
    when := ["* ", "Manawa ", "Menawa "]
    outcome := ["* ", "Njuk ", "Banjur "]
    and := ["* ", "Lan "]
    but := ["* ", "Tapi ", "Nanging ", "Ananging "] },
  { name := "ka"
    feature := ["თვისება", "მოთხოვნა"]
    rule := ["წესი"]
    background := ["კონტექსტი"]
    scenario := ["მაგალითად", "მაგალითი", "მაგ", "სცენარი"]
    outline := ["სცენარის ნიმუში", "სცენარის შაბლონი", "ნიმუში", "შაბლონი"]
    examples := ["მაგალითები"]
    given := ["* ", "მოცემული ", "მოცემულია ", "ვთქვათ "]
    when := ["* ", "როდესაც ", "როცა ", "როგორც კი ", "თუ "]
    outcome := ["* ", "მაშინ "]
    and := ["* ", "და ", "ასევე "]
    but := ["* ", "მაგრამ ", "თუმცა "] },
  { name := "kn"
    feature := ["ಹೆಚ್ಚಳ"]
    rule := ["Rule"]
    background := ["ಹಿನ್ನೆಲೆ"]
    scenario := ["ಉದಾಹರಣೆ", "ಕಥಾಸಾರಾಂಶ"]
    outline := ["ವಿವರಣೆ"]
    examples := ["ಉದಾಹರಣೆಗಳು"]
    given := ["* ", "ನೀಡಿದ "]
    when := ["* ", "ಸ್ಥಿತಿಯನ್ನು "]
    outcome := ["* ", "ನಂತರ "]
    and := ["* ", "ಮತ್ತು "]
    but := ["* ", "ಆದರೆ "] },
  { name := "ko"
    feature := ["기능"]
    rule := ["규칙"]
    background := ["배경"]
    scenario := ["시나리오"]
    outline := ["시나리오 개요"]
    examples := ["예"]
    given := ["* ", "조건 ", "먼저 "]
    when := ["* ", "만일 ", "만약 "]
    outcome := ["* ", "그러면 "]
    and := ["* ", "그리고 "]
    but := ["* ", "하지만 ", "단 "] },
  { name := "lt"
    feature := ["Savybė"]
    rule := ["Rule"]
    background := ["Kontekstas"]
    scenario := ["Pavyzdys", "Scenarijus"]
    outline := ["Scenarijaus šablonas"]
    examples := ["Pavyzdžiai", "Scenarijai", "Variantai"]
    given := ["* ", "Duota "]
    when := ["* ", "Kai "]
    outcome := ["* ", "Tada "]
    and := ["* ", "Ir "]
    but := ["* ", "Bet "] },
  { name := "lu"
    feature := ["Funktionalitéit"]
    rule := ["Rule"]
    background := ["Hannergrond"]
    scenario := ["Beispill", "Szenario"]
    outline := ["Plang vum Szenario"]
    examples := ["Beispiller"]
    given := ["* ", "ugeholl "]
    when := ["* ", "wann "]
    outcome := ["* ", "dann "]
    and := ["* ", "an ", "a "]
    but := ["* ", "awer ", "mä "] },
  { name := "lv"
    feature := ["Funkcionalitāte", "Fīča"]
    rule := ["Rule"]
    background := ["Konteksts", "Situācija"]
    scenario := ["Piemērs", "Scenārijs"]
    outline := ["Scenārijs pēc parauga"]
    examples := ["Piemēri", "Paraugs"]
    given := ["* ", "Kad "]
    when := ["* ", "Ja "]
    outcome := ["* ", "Tad "]
    and := ["* ", "Un "]
    but := ["* ", "Bet "] },
  { name := "mk-Cyrl"
    feature := ["Функционалност", "Бизнис потреба", "Можност"]
    rule := ["Rule"]
    background := ["Контекст", "Содржина"]
    scenario := ["Пример", "Сценарио", "На пример"]
    outline := ["Преглед на сценарија", "Скица", "Концепт"]
    examples := ["Примери", "Сценарија"]
    given := ["* ", "Дадено ", "Дадена "]
    when := ["* ", "Кога "]
    outcome := ["* ", "Тогаш "]
    and := ["* ", "И "]
    but := ["* ", "Но "] },
  { name := "mk-Latn"
    feature := ["Funkcionalnost", "Biznis potreba", "Mozhnost"]
    rule := ["Rule"]
    background := ["Kontekst", "Sodrzhina"]
    scenario := ["Scenario", "Na primer"]
    outline := ["Pregled na scenarija", "Skica", "Koncept"]
    examples := ["Primeri", "Scenaria"]
    given := ["* ", "Dadeno ", "Dadena "]
    when := ["* ", "Koga "]
    outcome := ["* ", "Togash "]
    and := ["* ", "I "]
    but := ["* ", "No "] },
  { name := "ml"
    feature := ["സവിശേഷത"]
    rule := ["നിയമം"]
    background := ["പശ്ചാത്തലം"]
    scenario := ["രംഗം"]
    outline := ["സാഹചര്യത്തിന്റെ രൂപരേഖ"]
    examples := ["ഉദാഹരണങ്ങൾ"]
    given := ["* ", "നൽകിയത്"]
    when := ["എപ്പോൾ"]
    outcome := ["* ", "പിന്നെ"]
    and := ["* ", "ഒപ്പം"]
    but := ["* ", "പക്ഷേ"] },
  { name := "mn"
    feature := ["Функц", "Функционал"]
    rule := ["Rule"]
    background := ["Агуулга"]
    scenario := ["Сценар"]
    outline := ["Сценарын төлөвлөгөө"]
    examples := ["Тухайлбал"]
    given := ["* ", "Өгөгдсөн нь ", "Анх "]
    when := ["* ", "Хэрэв "]
    outcome := ["* ", "Тэгэхэд ", "Үүний дараа "]
    and := ["* ", "Мөн ", "Тэгээд "]
    but := ["* ", "Гэхдээ ", "Харин "] },
  { name := "mr"
    feature := ["वैशिष्ट्य", "सुविधा"]
    rule := ["नियम"]
    background := ["पार्श्वभूमी"]
    scenario := ["परिदृश्य"]
    outline := ["परिदृश्य रूपरेखा"]
    examples := ["उदाहरण"]
    given := ["* ", "जर ", "दिलेल्या प्रमाणे "]
    when := ["* ", "जेव्हा "]
    outcome := ["* ", "मग ", "तेव्हा "]
    and := ["* ", "आणि ", "तसेच "]
    but := ["* ", "पण ", "परंतु "] }]

/-- The languages whose codes start with a letter from n to z. -/
def dialectsNToZ : List Dialect := [
  { name := "ne"
    feature := ["सुविधा", "विशेषता"]
    rule := ["नियम"]
    background := ["पृष्ठभूमी"]
    scenario := ["परिदृश्य"]
    outline := ["परिदृश्य रूपरेखा"]
    examples := ["उदाहरण", "उदाहरणहरु"]
    given := ["* ", "दिइएको ", "दिएको ", "यदि "]
    when := ["* ", "जब "]
    outcome := ["* ", "त्यसपछि ", "अनी "]
    and := ["* ", "र ", "अनि "]
    but := ["* ", "तर "] },
  { name := "nl"
    feature := ["Functionaliteit"]
    rule := ["Rule"]
    background := ["Achtergrond"]
    scenario := ["Voorbeeld", "Scenario"]
    outline := ["Abstract Scenario"]
    examples := ["Voorbeelden"]
    given := ["* ", "Gegeven ", "Stel "]
    when := ["* ", "Als ", "Wanneer "]
    outcome := ["* ", "Dan "]
    and := ["* ", "En "]
    but := ["* ", "Maar "] },
  { name := "no"
    feature := ["Egenskap"]
    rule := ["Regel"]
    background := ["Bakgrunn"]
    scenario := ["Eksempel", "Scenario"]
    outline := ["Scenariomal", "Abstrakt Scenario"]
    examples := ["Eksempler"]
    given := ["* ", "Gitt "]
    when := ["* ", "Når "]
    outcome := ["* ", "Så "]
    and := ["* ", "Og "]
    but := ["* ", "Men "] },
  { name := "pa"
    feature := ["ਖਾਸੀਅਤ", "ਮੁਹਾਂਦਰਾ", "ਨਕਸ਼ ਨੁਹਾਰ"]
    rule := ["Rule"]
    background := ["ਪਿਛੋਕੜ"]
    scenario := ["ਉਦਾਹਰਨ", "ਪਟਕਥਾ"]
    outline := ["ਪਟਕਥਾ ਢਾਂਚਾ", "ਪਟਕਥਾ ਰੂਪ ਰੇਖਾ"]
    examples := ["ਉਦਾਹਰਨਾਂ"]
    given := ["* ", "ਜੇਕਰ ", "ਜਿਵੇਂ ਕਿ "]
    when := ["* ", "ਜਦੋਂ "]
    outcome := ["* ", "ਤਦ "]
    and := ["* ", "ਅਤੇ "]
    but := ["* ", "ਪਰ "] },
  { name := "pl"
    feature := ["Właściwość", "Funkcja", "Aspekt", "Potrzeba biznesowa"]
    rule := ["Zasada", "Reguła"]
    background := ["Założenia"]
    scenario := ["Przykład", "Scenariusz"]
    outline := ["Szablon scenariusza"]
    examples := ["Przykłady"]
    given := ["* ", "Zakładając ", "Mając ", "Zakładając, że "]
    when := ["* ", "Jeżeli ", "Jeśli ", "Gdy ", "Kiedy "]
    outcome := ["* ", "Wtedy "]
    and := ["* ", "Oraz ", "I "]
    but := ["* ", "Ale "] },
  { name := "pt"
    feature := ["Funcionalidade", "Característica", "Caracteristica"]
    rule := ["Regra"]
    background := ["Contexto", "Cenário de Fundo", "Cenario de Fundo", "Fundo"]
    scenario := ["Exemplo", "Cenário", "Cenario"]
    outline := ["Esquema do Cenário", "Esquema do Cenario", "Delineação do Cenário", "Delineacao do Cenario"]
    examples := ["Exemplos", "Cenários", "Cenarios"]
    given := ["* ", "Dado ", "Dada ", "Dados ", "Dadas "]
    when := ["* ", "Quando "]
    outcome := ["* ", "Então ", "Entao "]
    and := ["* ", "E "]
    but := ["* ", "Mas "] },
  { name := "ro"
    feature := ["Functionalitate", "Funcționalitate", "Funcţionalitate"]
    rule := ["Rule"]
    background := ["Context"]
    scenario := ["Exemplu", "Scenariu"]
    outline := ["Structura scenariu", "Structură scenariu"]
    examples := ["Exemple"]
    given := ["* ", "Date fiind ", "Dat fiind ", "Dată fiind", "Dati fiind ", "Dați fiind ", "Daţi fiind "]
    when := ["* ", "Cand ", "Când "]
    outcome := ["* ", "Atunci "]
    and := ["* ", "Si ", "Și ", "Şi "]
    but := ["* ", "Dar "] },
  { name := "ru"
    feature := ["Функция", "Функциональность", "Функционал", "Свойство", "Фича"]
    rule := ["Правило"]
    background := ["Предыстория", "Контекст"]
    scenario := ["Пример", "Сценарий"]
    outline := ["Структура сценария", "Шаблон сценария"]
    examples := ["Примеры", "Значения"]
    given := ["* ", "Допустим ", "Дано ", "Пусть "]
    when := ["* ", "Когда ", "Если "]
    outcome := ["* ", "То ", "Затем ", "Тогда "]
    and := ["* ", "И ", "К тому же ", "Также "]
    but := ["* ", "Но ", "А ", "Иначе "] },
  { name := "sk"
    feature := ["Požiadavka", "Funkcia", "Vlastnosť"]
    rule := ["Rule"]
    background := ["Pozadie"]
    scenario := ["Príklad", "Scenár"]
    outline := ["Náčrt Scenáru", "Náčrt Scenára", "Osnova Scenára"]
    examples := ["Príklady"]
    given := ["* ", "Pokiaľ ", "Za predpokladu "]
    when := ["* ", "Keď ", "Ak "]
    outcome := ["* ", "Tak ", "Potom "]
    and := ["* ", "A ", "A tiež ", "A taktiež ", "A zároveň "]
    but := ["* ", "Ale "] },
  { name := "sl"
    feature := ["Funkcionalnost", "Funkcija", "Možnosti", "Moznosti", "Lastnost", "Značilnost"]
    rule := ["Rule"]
    background := ["Kontekst", "Osnova", "Ozadje"]
    scenario := ["Primer", "Scenarij"]
    outline := ["Struktura scenarija", "Skica", "Koncept", "Oris scenarija", "Osnutek"]
    examples := ["Primeri", "Scenariji"]
    given := ["Dano ", "Podano ", "Zaradi ", "Privzeto "]
    when := ["Ko ", "Ce ", "Če ", "Kadar "]
    outcome := ["Nato ", "Potem ", "Takrat "]
    and := ["In ", "Ter "]
    but := ["Toda ", "Ampak ", "Vendar "] },
  { name := "sr-Cyrl"
    feature := ["Функционалност", "Могућност", "Особина"]
    rule := ["Правило"]
    background := ["Контекст", "Основа", "Позадина"]
    scenario := ["Пример", "Сценарио"]
    outline := ["Структура сценарија", "Скица", "Концепт"]
    examples := ["Примери", "Сценарији"]
    given := ["* ", "За дато ", "За дате ", "За дати "]
    when := ["* ", "Када ", "Кад "]
    outcome := ["* ", "Онда "]
    and := ["* ", "И "]
    but := ["* ", "Али "] },
  { name := "sr-Latn"
    feature := ["Funkcionalnost", "Mogućnost", "Mogucnost", "Osobina"]
    rule := ["Pravilo"]
    background := ["Kontekst", "Osnova", "Pozadina"]
    scenario := ["Scenario", "Primer"]
    outline := ["Struktura scenarija", "Skica", "Koncept"]
    examples := ["Primeri", "Scenariji"]
    given := ["* ", "Za dato ", "Za date ", "Za dati "]
    when := ["* ", "Kada ", "Kad "]
    outcome := ["* ", "Onda "]
    and := ["* ", "I "]
    but := ["* ", "Ali "] },
  { name := "sv"
    feature := ["Egenskap"]
    rule := ["Regel"]
    background := ["Bakgrund"]
    scenario := ["Scenario"]
    outline := ["Abstrakt Scenario", "Scenariomall"]
    examples := ["Exempel"]
    given := ["* ", "Givet "]
    when := ["* ", "När "]
    outcome := ["* ", "Så "]
    and := ["* ", "Och "]
    but := ["* ", "Men "] },
  { name := "ta"
    feature := ["அம்சம்", "வணிக தேவை", "திறன்"]
    rule := ["Rule"]
    background := ["பின்னணி"]
    scenario := ["உதாரணமாக", "காட்சி"]
    outline := ["காட்சி சுருக்கம்", "காட்சி வார்ப்புரு"]
    examples := ["எடுத்துக்காட்டுகள்", "காட்சிகள்", "நிலைமைகளில்"]
    given := ["* ", "கொடுக்கப்பட்ட "]
    when := ["* ", "எப்போது "]
    outcome := ["* ", "அப்பொழுது "]
    and := ["* ", "மேலும் ", "மற்றும் "]
    but := ["* ", "ஆனால் "] },
  { name := "te"
    feature := ["గుణము"]
    rule := ["Rule"]
    background := ["నేపథ్యం"]
    scenario := ["ఉదాహరణ", "సన్నివేశం"]
    outline := ["కథనం"]
    examples := ["ఉదాహరణలు"]
    given := ["* ", "చెప్పబడినది "]
    when := ["* ", "ఈ పరిస్థితిలో "]
    outcome := ["* ", "అప్పుడు "]
    and := ["* ", "మరియు "]
    but := ["* ", "కాని "] },
  { name := "th"
    feature := ["โครงหลัก", "ความต้องการทางธุรกิจ", "ความสามารถ"]
    rule := ["Rule"]
    background := ["แนวคิด"]
    scenario := ["เหตุการณ์"]
    outline := ["สรุปเหตุการณ์", "โครงสร้างของเหตุการณ์"]
    examples := ["ชุดของตัวอย่าง", "ชุดของเหตุการณ์"]
    given := ["* ", "กำหนดให้ "]
    when := ["* ", "เมื่อ "]
    outcome := ["* ", "ดังนั้น "]
    and := ["* ", "และ "]
    but := ["* ", "แต่ "] },
  { name := "tlh"
    feature := ["Qap", "Qu'meH 'ut", "perbogh", "poQbogh malja'", "laH"]
    rule := ["Rule"]
    background := ["mo'"]
    scenario := ["lut"]
    outline := ["lut chovnatlh"]
    examples := ["ghantoH", "lutmey"]
    given := ["* ", "ghu' noblu' ", "DaH ghu' bejlu' "]
    when := ["* ", "qaSDI' "]
    outcome := ["* ", "vaj "]
    and := ["* ", "'ej ", "latlh "]
    but := ["* ", "'ach ", "'a "] },
  { name := "tr"
    feature := ["Özellik"]
    rule := ["Kural"]
    background := ["Geçmiş"]
    scenario := ["Örnek", "Senaryo"]
    outline := ["Senaryo taslağı"]
    examples := ["Örnekler"]
    given := ["* ", "Mevcut ", "Önceden ", "Geçmişte ", "Daha önce ", "Halihazırda ", "Zaten ", "Sistemde ", "Diyelim ki ", "Varsayalım ki ", "Farz edelim ki ", "Kabul edelim ki ", "Başlangıçta ", "Varsayılan olarak ", "Biliniyor ki "]
    when := ["* ", "Eğer ", "Eğer ki ", "Ne zaman ", "Ne zaman ki ", "Şayet "]
    outcome := ["* ", "Beklenen ", "O zaman ", "Sonuç olarak ", "Böylece ", "Bunun üzerine ", "Bu durumda ", "O takdirde ", "Şu halde ", "Netice itibariyle ", "Buna binaen "]
    and := ["* ", "Ve ", "Hem de ", "Bir de ", "Ayrıca ", "İlaveten ", "Buna ek olarak "]
    but := ["* ", "Fakat ", "Ama ", "Ancak ", "Yalnız ", "Lakin ", "Meğer ki ", "Buna mukabil ", "Aksi halde "] },
  { name := "tt"
    feature := ["Мөмкинлек", "Үзенчәлеклелек"]
    rule := ["Rule"]
    background := ["Кереш"]
    scenario := ["Сценарий"]
    outline := ["Сценарийның төзелеше"]
    examples := ["Үрнәкләр", "Мисаллар"]
    given := ["* ", "Әйтик "]
    when := ["* ", "Әгәр "]
    outcome := ["* ", "Нәтиҗәдә "]
    and := ["* ", "Һәм ", "Вә "]
    but := ["* ", "Ләкин ", "Әмма "] },
  { name := "uk"
    feature := ["Функціонал"]
    rule := ["Rule"]
    background := ["Передумова"]
    scenario := ["Приклад", "Сценарій"]
    outline := ["Структура сценарію"]
    examples := ["Приклади"]
    given := ["* ", "Припустимо ", "Припустимо, що ", "Нехай ", "Дано "]
    when := ["* ", "Якщо ", "Коли "]
    outcome := ["* ", "То ", "Тоді "]
    and := ["* ", "І ", "А також ", "Та "]
    but := ["* ", "Але "] },
  { name := "ur"
    feature := ["صلاحیت", "کاروبار کی ضرورت", "خصوصیت"]
    rule := ["Rule"]
    background := ["پس منظر"]
    scenario := ["منظرنامہ"]
    outline := ["منظر نامے کا خاکہ"]
    examples := ["مثالیں"]
    given := ["* ", "اگر ", "بالفرض ", "فرض کیا "]
    when := ["* ", "جب "]
    outcome := ["* ", "پھر ", "تب "]
    and := ["* ", "اور "]
    but := ["* ", "لیکن "] },
  { name := "uz"
    feature := ["Функционал"]
    rule := ["Rule"]
    background := ["Тарих"]
    scenario := ["Сценарий"]
    outline := ["Сценарий структураси"]
    examples := ["Мисоллар"]
    given := ["* ", "Belgilangan "]
    when := ["* ", "Агар "]
    outcome := ["* ", "Унда "]
    and := ["* ", "Ва "]
    but := ["* ", "Лекин ", "Бирок ", "Аммо "] },
  { name := "vi"
    feature := ["Tính năng"]
    rule := ["Quy tắc"]
    background := ["Bối cảnh"]
    scenario := ["Tình huống", "Kịch bản"]
    outline := ["Khung tình huống", "Khung kịch bản"]
    examples := ["Dữ liệu"]
    given := ["* ", "Biết ", "Cho "]
    when := ["* ", "Khi "]
    outcome := ["* ", "Thì "]
    and := ["* ", "Và "]
    but := ["* ", "Nhưng "] },
  { name := "zh-CN"
    feature := ["功能"]
    rule := ["Rule", "规则"]
    background := ["背景"]
    scenario := ["场景", "剧本"]
    outline := ["场景大纲", "剧本大纲"]
    examples := ["例子"]
    given := ["* ", "假如", "假设", "假定"]
    when := ["* ", "当"]
    outcome := ["* ", "那么"]
    and := ["* ", "而且", "并且", "同时"]
    but := ["* ", "但是"] },
  { name := "zh-TW"
    feature := ["功能"]
    rule := ["Rule"]
    background := ["背景"]
    scenario := ["場景", "劇本"]
    outline := ["場景大綱", "劇本大綱"]
    examples := ["例子"]
    given := ["* ", "假如", "假設", "假定"]
    when := ["* ", "當"]
    outcome := ["* ", "那麼"]
    and := ["* ", "而且", "並且", "同時"]
    but := ["* ", "但是"] }]

/-- All languages. -/
def dialects : List Dialect := dialectsAToE ++ dialectsFToM ++ dialectsNToZ

def Dialect.find? (language : String) : Option Dialect := dialects.find? (·.name == language)

end FeatureSuite.Gherkin
