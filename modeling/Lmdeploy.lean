import Lmdeploy.Engine.Loops
import Lmdeploy.Engine.Migration
import Lmdeploy.Engine.Responses
import Lmdeploy.Engine.Budget
import Lmdeploy.Engine.Inputs
import Lmdeploy.Template.Rounds
import Lmdeploy.Template.Balanced
import Lmdeploy.Template.Config
import Lmdeploy.Turbomind.Chat
import Lmdeploy.Template.Match
import Lmdeploy.Template.ConfigFile
