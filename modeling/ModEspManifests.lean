import ModEspManifests.PyDict
import ModEspManifests.PyJson
import ModEspManifests.Validator
import ModEspManifests.ValidatorLaws
import ModEspManifests.ManifestParser
import ModEspManifests.ParserRuns
import ModEspManifests.ManifestShape
import ModEspManifests.EventTable
import ModEspManifests.CppLiteral
import ModEspManifests.Emitters
import ModEspManifests.AdaptiveUi
import ModEspManifests.Pipeline
